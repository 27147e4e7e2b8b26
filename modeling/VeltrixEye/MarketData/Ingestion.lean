import VeltrixEye.Lib.Upserts
import VeltrixEye.Backtest.Contracts
import VeltrixEye.MarketData.Scheduled

/-!
# Fetch-through reads and backfills (`market-data/ingestion.ts`, `market-data/candles.ts`)

The candle store holds rows by instrument, timeframe and open time.  A read fetches what its range misses
before the earliest and after the latest row it finds there, a backfill fetches its whole range.

* `ingestionStep` — any sequence of reads and backfills.
-/

namespace VeltrixEye.MarketData

/-! ## Contracts (`contracts/ingestion.ts`) -/

def RETENTION_DAYS : Timeframe → ℤ
  | .m1 => 30
  | .m3 => 30
  | .m5 => 90
  | .m15 => 180
  | .m30 => 180
  | .h1 => 365
  | .h2 => 365
  | .h4 => 365
  | .h8 => 365
  | .h12 => 365
  | .d1 => 1825
  | .d3 => 1825
  | .w1 => 1825
  | .mo1 => 1825

def retentionCutoffMs (timeframe : Timeframe) (nowMs : ℤ) : ℤ := nowMs - RETENTION_DAYS timeframe * 86400000

def MAX_BACKFILL_CANDLES : ℤ := 50000

/-- The period of a timeframe in milliseconds. -/
def periodMs (timeframe : Timeframe) : ℤ := timeframeMinutes timeframe * 60000

inductive ProviderFailureKind where
  | unavailable
  | rate_limited
  | invalid_request
  | not_found
  | unauthorized

inductive IngestionError where
  | unknownInstrument (assetClass symbol : String)
  | beyondRetention (timeframe : Timeframe) (cutoff : ℤ)
  | noProvider
  | provider (kind : ProviderFailureKind)
  | budgetExhausted
  | invalidCandle (time : ℤ) (why : String)
  /-- A numeric overflow or a violated CHECK. -/
  | database
  | overLimit (limit : ℕ)
  | overBackfillCap (estimate : ℤ)

/-! ## The candle store (`CandleStore`) -/

/-- `candles`, the columns of a bar. -/
structure CandleColumns where
  ts : ℤ
  «open» : Numeric 24 10
  high : Numeric 24 10
  low : Numeric 24 10
  close : Numeric 24 10
  volume : Option (Numeric 30 10)
  checks : 0 < ts ∧ (0 < open.units ∧ 0 < high.units ∧ 0 < low.units ∧ 0 < close.units) ∧
    (low.units ≤ open.units ∧ low.units ≤ close.units ∧ open.units ≤ high.units ∧ close.units ≤ high.units) ∧
    ∀ v ∈ volume, 0 ≤ v.units

structure CandleRow extends CandleColumns where
  providerSlug : String

/-- What a read makes of a row. -/
def CandleColumns.toDto (r : CandleColumns) : CandleDto where
  time := r.ts
  «open» := .fin r.open.toRat
  high := .fin r.high.toRat
  low := .fin r.low.toRat
  close := .fin r.close.toRat
  volume := r.volume.map fun v => .fin v.toRat

def positiveFinite : JsNumber → Bool
  | .fin q => 0 < q
  | _ => false

/-- `assertValidCandle`: the first fault of a candle. -/
def candleFault? (c : CandleDto) : Option String :=
  if c.time ≤ 0 then some "time must be a positive integer (epoch-ms)"
  else if ¬ positiveFinite c.open then some "open must be a positive finite number"
  else if ¬ positiveFinite c.high then some "high must be a positive finite number"
  else if ¬ positiveFinite c.low then some "low must be a positive finite number"
  else if ¬ positiveFinite c.close then some "close must be a positive finite number"
  else
    match c.open, c.high, c.low, c.close with
    | .fin o, .fin h, .fin l, .fin cl =>
      if ¬ (l ≤ min o cl ∧ max o cl ≤ h) then some "OHLC invariant violated (low ≤ open/close ≤ high)"
      else
        match c.volume with
        | none => none
        | some (.fin v) => if v < 0 then some "volume must be null or a non-negative finite number" else none
        | some _ => some "volume must be null or a non-negative finite number"
    | _, _, _, _ => none

/-- A number written to a numeric column. -/
def numericColumn (p s : ℕ) : JsNumber → Option (Numeric p s)
  | .fin q => Numeric.ofRat? p s q
  | _ => none

/-- The columns a candle is written to. -/
def storeCandle (c : CandleDto) : Except IngestionError CandleColumns :=
  match numericColumn 24 10 c.open, numericColumn 24 10 c.high, numericColumn 24 10 c.low,
    numericColumn 24 10 c.close, c.volume.mapM (numericColumn 30 10) with
  | some o, some h, some l, some cl, some v =>
    if hchecks : 0 < c.time ∧ (0 < o.units ∧ 0 < h.units ∧ 0 < l.units ∧ 0 < cl.units) ∧
        (l.units ≤ o.units ∧ l.units ≤ cl.units ∧ o.units ≤ h.units ∧ cl.units ≤ h.units) ∧
        ∀ x ∈ v, 0 ≤ x.units then
      .ok ⟨c.time, o, h, l, cl, v, hchecks⟩
    else .error .database
  | _, _, _, _, _ => .error .database

def storeRow (providerSlug : String) (c : CandleDto) : Except IngestionError CandleRow := do
  let columns ← storeCandle c
  .ok ⟨columns, providerSlug⟩

/-- A candle as the columns keep it. -/
def kept (c : CandleDto) : Except IngestionError CandleDto := do
  let columns ← storeCandle c
  .ok columns.toDto

/-- `upsertCandles`, with the number of candles stored. -/
def upsertCandles (rows : List CandleRow) (providerSlug : String) (candles : List CandleDto) :
    Except IngestionError (List CandleRow × ℕ) :=
  match candles.findSome? fun c => (candleFault? c).map fun why => (c.time, why) with
  | some (time, why) => .error (.invalidCandle time why)
  | none => do
    -- one entry for each time: the last wins
    let written ← (Series.entries CandleDto.time candles).mapM (storeRow providerSlug)
    .ok (written.foldl (Series.upsert fun r : CandleRow => r.ts) rows, written.length)

/-- The rows of a range. -/
def rangeRows (rows : List CandleRow) (fromMs toMs : ℤ) : List CandleRow :=
  rows.filter fun r => fromMs ≤ r.ts ∧ r.ts < toMs

/-- `rangeStats`: the earliest and the latest time. -/
def rangeStats (rows : List CandleRow) (fromMs toMs : ℤ) : Option ℤ × Option ℤ :=
  let times := (rangeRows rows fromMs toMs).map fun r => r.ts
  (times.min?, times.max?)

def queryCandles (rows : List CandleRow) (fromMs toMs : ℤ) (limit : ℕ) : List CandleDto :=
  (((rangeRows rows fromMs toMs).insertionSort fun a b => a.ts ≤ b.ts).take limit).map fun r => r.toDto

def pruneBeyondRetention (rows : List CandleRow) (cutoffMs : ℤ) : List CandleRow :=
  rows.filter fun r => cutoffMs ≤ r.ts

/-! ## Reads and backfills (`IngestionService`) -/

/-- A historical provider, as it answers during one call. -/
structure Provider where
  id : String
  getHistoricalCandles : Pair → ℤ → ℤ → Except ProviderFailureKind (List CandleDto)

/-- The instruments, and the candles of each pair. -/
structure MarketStore where
  instruments : List Instrument
  candles : Pair → List CandleRow

def MarketStore.set (d : MarketStore) (pair : Pair) (rows : List CandleRow) : MarketStore :=
  { d with candles := Function.update d.candles pair rows }

def MarketStore.resolveInstrument (d : MarketStore) (instrument : Instrument) : Option Instrument :=
  d.instruments.find? fun i => i = ⟨instrument.assetClass, instrument.symbol.toUpper⟩

def missingRanges (fromMs toMs : ℤ) (earliest latest : Option ℤ) (periodMs : ℤ) : List (ℤ × ℤ) :=
  match earliest, latest with
  | some earliest, some latest =>
    (if fromMs + periodMs ≤ earliest then [(fromMs, earliest)] else []) ++
      if latest + periodMs < toMs then [(latest, toMs)] else []
  | _, _ => [(fromMs, toMs)]

/-- One provider request and the upsert of its answer. -/
def fetchRange (provider : Provider) (pair : Pair) (rows : List CandleRow) (fromMs toMs : ℤ) :
    Except IngestionError (List CandleRow × ℕ) :=
  match provider.getHistoricalCandles pair fromMs toMs with
  | .error kind => .error (.provider kind)
  | .ok candles => upsertCandles rows provider.id candles

/-- The loop over the missing ranges.  `mayRequest` is the caller's guard before the request of a range;
    what was stored before a failure stays. -/
def fetchMissing (provider : Provider) (mayRequest : ℤ × ℤ → Bool) (pair : Pair) :
    List CandleRow → List (ℤ × ℤ) → List CandleRow × Except IngestionError Unit
  | rows, [] => (rows, .ok ())
  | rows, range :: ranges =>
    if mayRequest range then
      match fetchRange provider pair rows range.1 range.2 with
      | .error e => (rows, .error e)
      | .ok (rows, _) => fetchMissing provider mayRequest pair rows ranges
    else (rows, .error .budgetExhausted)

structure CandleReadRequest where
  instrument : Instrument
  timeframe : Timeframe
  fromMs : ℤ
  toMs : ℤ
  limit : ℕ
  nowMs : ℤ
  mayRequest : ℤ × ℤ → Bool

structure CandlesResponse where
  instrument : Instrument
  timeframe : Timeframe
  fromMs : ℤ
  toMs : ℤ
  fetchedFromProvider : Bool
  candles : List CandleDto

/-- The read of the store that ends `getCandles`. -/
def readStored (req : CandleReadRequest) (instrument : Instrument) (fetchedFromProvider : Bool)
    (rows : List CandleRow) : Except IngestionError CandlesResponse :=
  let candles := queryCandles rows req.fromMs req.toMs (req.limit + 1)
  if req.limit < candles.length then .error (.overLimit req.limit)
  else .ok ⟨instrument, req.timeframe, req.fromMs, req.toMs, fetchedFromProvider, candles⟩

def getCandles (provider : Option Provider) (d : MarketStore) (req : CandleReadRequest) :
    MarketStore × Except IngestionError CandlesResponse :=
  match d.resolveInstrument req.instrument with
  | none => (d, .error (.unknownInstrument req.instrument.assetClass req.instrument.symbol))
  | some instrument =>
    let cutoff := retentionCutoffMs req.timeframe req.nowMs
    if req.fromMs < cutoff then (d, .error (.beyondRetention req.timeframe cutoff))
    else
      let pair := (instrument, req.timeframe)
      let rows := d.candles pair
      let stats := rangeStats rows req.fromMs req.toMs
      match missingRanges req.fromMs req.toMs stats.1 stats.2 (periodMs req.timeframe), provider with
      | [], _ => (d, readStored req instrument false rows)
      | _ :: _, none => (d, .error .noProvider)
      | ranges, some provider =>
        match fetchMissing provider req.mayRequest pair rows ranges with
        | (rows, .error e) => (d.set pair rows, .error e)
        | (rows, .ok ()) =>
          let rows := pruneBeyondRetention rows cutoff
          (d.set pair rows, readStored req instrument true rows)

structure BackfillRequest where
  instruments : List Instrument
  timeframes : List Timeframe
  fromMs : ℤ
  toMs : ℤ
  nowMs : ℤ

inductive BackfillStatus where
  | completed
  | failed
  | partly

structure BackfillPairResult where
  pair : Pair
  /-- The candles stored, or why the pair failed. -/
  outcome : Except IngestionError ℕ

structure BackfillResponse where
  status : BackfillStatus
  provider : String
  fromMs : ℤ
  toMs : ℤ
  candlesUpserted : ℕ
  pairs : List BackfillPairResult

/-- One pair of a backfill. -/
def backfillPair (provider : Provider) (req : BackfillRequest) (d : MarketStore) (pair : Pair) :
    MarketStore × BackfillPairResult :=
  match fetchRange provider pair (d.candles pair) req.fromMs req.toMs with
  | .error e => (d, ⟨pair, .error e⟩)
  | .ok (rows, n) => (d.set pair (pruneBeyondRetention rows (retentionCutoffMs pair.2 req.nowMs)), ⟨pair, .ok n⟩)

/-- The pairs one after the other: a failed one does not stop the others. -/
def backfillPairs (provider : Provider) (req : BackfillRequest) :
    MarketStore → List Pair → MarketStore × List BackfillPairResult
  | d, [] => (d, [])
  | d, pair :: pairs =>
    let r := backfillPair provider req d pair
    let rest := backfillPairs provider req r.1 pairs
    (rest.1, r.2 :: rest.2)

/-- The candles a backfill is estimated to store. -/
def BackfillRequest.estimate (req : BackfillRequest) (instruments : ℕ) : ℤ :=
  (req.timeframes.map fun tf => instruments * (⌈((req.toMs - req.fromMs : ℤ) : ℚ) / periodMs tf⌉ + 1)).sum

def BackfillPairResult.failed (r : BackfillPairResult) : Bool := r.outcome.toOption.isNone

def backfillStatus (pairs : List BackfillPairResult) : BackfillStatus :=
  let failed := (pairs.filter BackfillPairResult.failed).length
  if failed = 0 then .completed else if failed = pairs.length then .failed else .partly

def backfill (provider : Option Provider) (d : MarketStore) (req : BackfillRequest) :
    MarketStore × Except IngestionError BackfillResponse :=
  match provider with
  | none => (d, .error .noProvider)
  | some provider =>
    match req.instruments.mapM fun i => (match d.resolveInstrument i with
        | none => .error (.unknownInstrument i.assetClass i.symbol)
        | some found => .ok found : Except IngestionError Instrument) with
    | .error e => (d, .error e)
    | .ok resolved =>
      match req.timeframes.find? fun tf => req.fromMs < retentionCutoffMs tf req.nowMs with
      | some tf => (d, .error (.beyondRetention tf (retentionCutoffMs tf req.nowMs)))
      | none =>
        let estimate := req.estimate resolved.length
        if MAX_BACKFILL_CANDLES < estimate then (d, .error (.overBackfillCap estimate))
        else
          let r := backfillPairs provider req d (resolved.flatMap fun i => req.timeframes.map fun tf => (i, tf))
          (r.1, .ok {
            status := backfillStatus r.2
            provider := provider.id
            fromMs := req.fromMs
            toMs := req.toMs
            candlesUpserted := (r.2.map fun p => p.outcome.toOption.getD 0).sum
            pairs := r.2 })

/-! ## A provider of one series for each pair -/

/-- The values of a candle. -/
structure Bar where
  «open» : JsNumber
  high : JsNumber
  low : JsNumber
  close : JsNumber
  volume : Option JsNumber

/-- A gap-free grid of candles: what each closes with, and what it shows at a moment while it forms. -/
structure ProviderSeries where
  start : ℤ
  final : ℤ → Bar
  forming : ℤ → ℤ → Bar

namespace ProviderSeries

variable (S : ProviderSeries) (period nowMs : ℤ)

/-- A candle opens at the time, and has opened by now. -/
def Opened (time : ℤ) : Prop := S.start ≤ time ∧ time ≤ nowMs ∧ period ∣ time - S.start

instance (time : ℤ) : Decidable (S.Opened period nowMs time) :=
  inferInstanceAs (Decidable (S.start ≤ time ∧ time ≤ nowMs ∧ period ∣ time - S.start))

/-- The candle of a time, as it is now. -/
def candle (time : ℤ) : CandleDto :=
  let bar := if time + period ≤ nowMs then S.final time else S.forming time nowMs
  ⟨time, bar.open, bar.high, bar.low, bar.close, bar.volume⟩

/-- The times that have opened. -/
def times : List ℤ :=
  if nowMs < S.start then []
  else (List.range (((nowMs - S.start) / period).toNat + 1)).map fun k : ℕ => S.start + k * period

/-- What a request is answered with. -/
def candles (fromMs toMs : ℤ) : List CandleDto :=
  ((S.times period nowMs).filter fun t => fromMs ≤ t ∧ t < toMs).map (S.candle period nowMs)

end ProviderSeries

structure World where
  providerId : String
  series : Pair → ProviderSeries

/-- The requests that fail during a call. -/
abbrev Outage := Pair → ℤ → ℤ → Option ProviderFailureKind

/-- The provider during a call. -/
def World.provider (w : World) (outage : Outage) (nowMs : ℤ) : Provider where
  id := w.providerId
  getHistoricalCandles pair fromMs toMs :=
    match outage pair fromMs toMs with
    | some kind => .error kind
    | none => .ok ((w.series pair).candles (periodMs pair.2) nowMs fromMs toMs)

structure IngestionState where
  /-- The wall clock of the last call. -/
  clock : ℤ
  store : MarketStore

def IngestionState.initial (instruments : List Instrument) (clock : ℤ) : IngestionState :=
  ⟨clock, ⟨instruments, fun _ => []⟩⟩

inductive IngestionAction where
  | read (req : CandleReadRequest) (outage : Outage)
  | backfill (req : BackfillRequest) (outage : Outage)

def IngestionAction.nowMs : IngestionAction → ℤ
  | .read req _ => req.nowMs
  | .backfill req _ => req.nowMs

def ingestionStep (w : World) (s : IngestionState) : IngestionAction → IngestionState
  | .read req outage => ⟨req.nowMs, (getCandles (some (w.provider outage req.nowMs)) s.store req).1⟩
  | .backfill req outage =>
    ⟨req.nowMs, (MarketData.backfill (some (w.provider outage req.nowMs)) s.store req).1⟩

/-- Clocks do not go back. -/
def ClockAdvances (s : IngestionState) (a : IngestionAction) : Prop := s.clock ≤ a.nowMs

instance (s : IngestionState) (a : IngestionAction) : Decidable (ClockAdvances s a) :=
  inferInstanceAs (Decidable (s.clock ≤ a.nowMs))

/-! ## Completeness -/

/-- The candles of a read are the provider's, and those that have closed are final. -/
structure Complete (S : ProviderSeries) (req : CandleReadRequest) (candles : List CandleDto) : Prop where
  ascending : candles.Pairwise fun a b => a.time < b.time
  times : ∀ t, (∃ c ∈ candles, c.time = t) ↔
    S.Opened (periodMs req.timeframe) req.nowMs t ∧ req.fromMs ≤ t ∧ t < req.toMs
  final : ∀ c ∈ candles, c.time + periodMs req.timeframe ≤ req.nowMs →
    kept (S.candle (periodMs req.timeframe) req.nowMs c.time) = .ok c

/-- What every read returns: candles of the provider, and among them all before the first and after the
    last stored one, as they are now. -/
structure EndsComplete (S : ProviderSeries) (req : CandleReadRequest) (rows : List CandleRow)
    (candles : List CandleDto) : Prop where
  ascending : candles.Pairwise fun a b => a.time < b.time
  opened : ∀ c ∈ candles, S.Opened (periodMs req.timeframe) req.nowMs c.time ∧ req.fromMs ≤ c.time ∧
    c.time < req.toMs
  ends : ∀ t, S.Opened (periodMs req.timeframe) req.nowMs t → req.fromMs ≤ t → t < req.toMs →
    (∀ r ∈ rangeRows rows req.fromMs req.toMs, t < r.ts) ∨ (∀ r ∈ rangeRows rows req.fromMs req.toMs, r.ts < t) →
    ∃ c ∈ candles, kept (S.candle (periodMs req.timeframe) req.nowMs t) = .ok c

/-- Between two stored candles of the range, every candle is stored. -/
def NoGap (S : ProviderSeries) (req : CandleReadRequest) (rows : List CandleRow) : Prop :=
  ∀ a ∈ rangeRows rows req.fromMs req.toMs, ∀ b ∈ rangeRows rows req.fromMs req.toMs, ∀ t,
    S.Opened (periodMs req.timeframe) req.nowMs t → a.ts ≤ t → t ≤ b.ts → ∃ r ∈ rows, r.ts = t

/-- The stored candle is the last of the range, and another period fits after it: the read fetches it
    again. -/
def Refetched (req : CandleReadRequest) (rows : List CandleRow) (r : CandleRow) : Prop :=
  r.ts + periodMs req.timeframe < req.toMs ∧ ∀ q ∈ rangeRows rows req.fromMs req.toMs, q.ts ≤ r.ts

/-- The closed candles of the range that are not fetched again are final. -/
def NoneStale (S : ProviderSeries) (req : CandleReadRequest) (rows : List CandleRow) : Prop :=
  ∀ r ∈ rangeRows rows req.fromMs req.toMs, r.ts + periodMs req.timeframe ≤ req.nowMs → ¬ Refetched req rows r →
    kept (S.candle (periodMs req.timeframe) req.nowMs r.ts) = .ok r.toDto

/-- The newest stored candle of all, when it is in the range, has closed and is not fetched again, is
    final. -/
def NewestFinal (S : ProviderSeries) (req : CandleReadRequest) (rows : List CandleRow) : Prop :=
  ∀ r ∈ rangeRows rows req.fromMs req.toMs, (∀ q ∈ rows, q.ts ≤ r.ts) →
    r.ts + periodMs req.timeframe ≤ req.nowMs → req.toMs ≤ r.ts + periodMs req.timeframe →
    kept (S.candle (periodMs req.timeframe) req.nowMs r.ts) = .ok r.toDto

/-- A range that starts no later than the newest stored candle and ends no earlier than the oldest one. -/
def JoinsUp (rows : List CandleRow) (fromMs toMs : ℤ) : Prop :=
  rows = [] ∨ (∃ r ∈ rows, fromMs ≤ r.ts) ∧ ∃ r ∈ rows, r.ts ≤ toMs

/-- The range of a backfill joins up with the rows of each pair at its turn. -/
def BackfillJoins (provider : Provider) (req : BackfillRequest) : MarketStore → List Pair → Prop
  | _, [] => True
  | d, pair :: pairs => JoinsUp (d.candles pair) req.fromMs req.toMs ∧
    BackfillJoins provider req (backfillPair provider req d pair).1 pairs

/-- The range of a call joins up with what is stored. -/
def Joins (w : World) (s : IngestionState) : IngestionAction → Prop
  | .read req _ => ∀ i ∈ s.store.resolveInstrument req.instrument,
    JoinsUp (s.store.candles (i, req.timeframe)) req.fromMs req.toMs
  | .backfill req outage => BackfillJoins (w.provider outage req.nowMs) req s.store
    ((req.instruments.filterMap s.store.resolveInstrument).flatMap fun i => req.timeframes.map fun tf => (i, tf))

end VeltrixEye.MarketData
