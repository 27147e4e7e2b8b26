import VeltrixEye.Lib.Pages
import VeltrixEye.Execution.PaperEngine

/-!
# The simulator's market data (`execution/paper-market.ts`, table `candles`)

`CandleStore` is the shared candle table with its primary key.  `latestPrice` is the price a fill
may use; `candlesSince` is the path the stop and the target are checked against, one ascending page
of at most `limit` stored rows with the unusable ones dropped afterwards.

`find?_candlesSince` — searching the page finds the earliest match of the whole history, provided
fewer than `limit` stored rows come before it.
-/

namespace VeltrixEye

open Pages

inductive Timeframe where
  | m1 | m3 | m5 | m15 | m30 | h1 | h2 | h4 | h8 | h12 | d1 | d3 | w1 | mo1
  deriving DecidableEq

/-- The stored text of a timeframe. -/
def Timeframe.text : Timeframe → String
  | m1 => "1m"
  | m3 => "3m"
  | m5 => "5m"
  | m15 => "15m"
  | m30 => "30m"
  | h1 => "1h"
  | h2 => "2h"
  | h4 => "4h"
  | h8 => "8h"
  | h12 => "12h"
  | d1 => "1d"
  | d3 => "3d"
  | w1 => "1w"
  | mo1 => "1M"

/-- `STALE_THRESHOLDS_MS`; every canonical timeframe has one, so `paperStaleThresholdMs` never
    takes its fallback. -/
def paperStaleThresholdMs : Timeframe → ℤ
  | .m1 => 5 * 60000
  | .m3 => 10 * 60000
  | .m5 => 15 * 60000
  | .m15 => 45 * 60000
  | .m30 => 90 * 60000
  | .h1 => 2 * 60 * 60000
  | .h2 => 4 * 60 * 60000
  | .h4 => 8 * 60 * 60000
  | .h8 => 16 * 60 * 60000
  | .h12 => 24 * 60 * 60000
  | .d1 => 36 * 60 * 60000
  | .d3 => 4 * 24 * 60 * 60000
  | .w1 => 8 * 24 * 60 * 60000
  | .mo1 => 35 * 24 * 60 * 60000

/-- A `candles` row; the prices are what `Number` reads from the stored text. -/
structure CandleRow where
  instrumentId : String
  timeframe : Timeframe
  ts : ℤ
  «open» : JsNumber
  high : JsNumber
  low : JsNumber
  close : JsNumber
  deriving DecidableEq

/-- `PRIMARY KEY (instrument_id, timeframe, ts)`. -/
def CandleRow.key (r : CandleRow) : String × Timeframe × ℤ := (r.instrumentId, r.timeframe, r.ts)

/-- The `candles` table. -/
structure CandleStore where
  rows : List CandleRow
  pk : (rows.map CandleRow.key).Nodup

/-- `usable(row)`. -/
def usable (row : CandleRow) : Option PaperCandle :=
  if row.ts ≤ 0 then none
  else if !row.open.isFinite || !row.high.isFinite || !row.low.isFinite || !row.close.isFinite then none
  else if !JsNumber.lt 0 row.open || !JsNumber.lt 0 row.high || !JsNumber.lt 0 row.low ||
      !JsNumber.lt 0 row.close then none
  else if JsNumber.lt row.high row.low then none
  else some ⟨row.ts, row.open, row.high, row.low, row.close⟩

theorem usable_eq_some {row : CandleRow} {c : PaperCandle} (h : usable row = some c) :
    isUsableCandle c = true ∧ c.time = row.ts := by
  unfold usable at h
  split at h
  · cases h
  rename_i hts
  split at h
  · cases h
  rename_i hfin
  split at h
  · cases h
  rename_i hpos
  split at h
  · cases h
  rename_i hle
  cases h
  simp only [Bool.or_eq_true, Bool.not_eq_true', not_or, Bool.not_eq_false] at hfin hpos
  obtain ⟨⟨⟨ho, hh⟩, hl⟩, hc⟩ := hfin
  obtain ⟨⟨⟨-, hh0⟩, hl0⟩, -⟩ := hpos
  refine ⟨?_, rfl⟩
  have hlow : JsNumber.le row.low row.high = true := by
    cases hhi : row.high with
    | fin q =>
      cases hlo : row.low with
      | fin r => simpa [hhi, hlo] using hle
      | _ => simp [hlo, JsNumber.isFinite] at hl
    | _ => simp [hhi, JsNumber.isFinite] at hh
  simp [isUsableCandle, ho, hh, hl, hc, hh0, hl0, hlow]
  omega

/-- The rows of one series in `(sinceMs, nowMs]`. -/
def CandleStore.window (store : CandleStore) (instrumentId : String) (timeframe : Timeframe)
    (sinceMs nowMs : ℤ) : List CandleRow :=
  store.rows.filter fun r =>
    r.instrumentId = instrumentId ∧ r.timeframe = timeframe ∧ sinceMs < r.ts ∧ r.ts ≤ nowMs

def CandleStore.candlesSince (store : CandleStore) (instrumentId : String) (timeframe : Timeframe)
    (sinceMs nowMs : ℤ) (limit : ℕ) : List PaperCandle :=
  (page CandleRow.ts (max 1 limit) (store.window instrumentId timeframe sinceMs nowMs)).filterMap usable

theorem CandleStore.window_nodup (store : CandleStore) (instrumentId : String)
    (timeframe : Timeframe) (sinceMs nowMs : ℤ) :
    ((store.window instrumentId timeframe sinceMs nowMs).map CandleRow.ts).Nodup := by
  have hkeys : ((store.window instrumentId timeframe sinceMs nowMs).map CandleRow.key).Nodup :=
    store.pk.sublist (List.filter_sublist.map _)
  rw [List.Nodup, List.pairwise_map] at hkeys ⊢
  refine hkeys.imp_of_mem fun {a b} ha hb hne heq => hne ?_
  -- within one series the timestamp is the whole key
  simp only [window, List.mem_filter, decide_eq_true_eq] at ha hb
  simp [CandleRow.key, heq, ha.2.1, hb.2.1, ha.2.2.1, hb.2.2.1]

theorem CandleStore.candlesSince_length (store : CandleStore) (instrumentId : String)
    (timeframe : Timeframe) (sinceMs nowMs : ℤ) (limit : ℕ) :
    (store.candlesSince instrumentId timeframe sinceMs nowMs limit).length ≤ max 1 limit :=
  (List.length_filterMap_le _ _).trans (List.length_take_le _ _)

theorem CandleStore.isUsableCandle_of_mem {store : CandleStore} {instrumentId : String}
    {timeframe : Timeframe} {sinceMs nowMs : ℤ} {limit : ℕ} {c : PaperCandle}
    (h : c ∈ store.candlesSince instrumentId timeframe sinceMs nowMs limit) :
    isUsableCandle c = true := by
  obtain ⟨r, -, hr⟩ := List.mem_filterMap.mp h
  exact (usable_eq_some hr).1

/-- **Searching the page.**  A match is found exactly when it is the earliest of the whole window
    and fewer than `limit` stored rows precede it. -/
theorem CandleStore.find?_candlesSince (store : CandleStore) (instrumentId : String)
    (timeframe : Timeframe) (sinceMs nowMs : ℤ) {limit : ℕ} (hlimit : 0 < limit)
    (p : PaperCandle → Bool) (c : PaperCandle) :
    (store.candlesSince instrumentId timeframe sinceMs nowMs limit).find? p = some c ↔
      ∃ r ∈ store.window instrumentId timeframe sinceMs nowMs, usable r = some c ∧ p c = true ∧
        (∀ r' ∈ store.window instrumentId timeframe sinceMs nowMs, ∀ c', usable r' = some c' →
          p c' = true → r.ts ≤ r'.ts) ∧
        rank CandleRow.ts (store.window instrumentId timeframe sinceMs nowMs) r < limit := by
  have hmax : max 1 limit = limit := Nat.max_eq_right hlimit
  rw [candlesSince, List.find?_filterMap, hmax, Option.bind_eq_some_iff]
  simp only [find?_page (store.window_nodup instrumentId timeframe sinceMs nowMs),
    Option.any_eq_true]
  constructor
  · rintro ⟨r, ⟨hr, ⟨c', hc', hp⟩, hmin, hrank⟩, hc⟩
    rw [hc'] at hc
    cases hc
    exact ⟨r, hr, hc', hp, fun r' hr' d hd hpd => hmin r' hr' ⟨d, hd, hpd⟩, hrank⟩
  · rintro ⟨r, hr, hc, hp, hmin, hrank⟩
    exact ⟨r, ⟨hr, ⟨c, hc, hp⟩, fun r' hr' ⟨d, hd, hpd⟩ => hmin r' hr' d hd hpd, hrank⟩, hc⟩

/-! ## The latest price -/

structure SimulatorMarketPrice where
  price : JsNumber
  timeMs : ℤ
  ageMs : ℤ
  thresholdMs : ℤ
  timeframe : Timeframe

/-- Why there is no usable price. -/
structure MarketRefusal where
  reason : String
  invalidData : Bool
  stale : Bool

/-- `Math.round(ms / 1000)` as text. -/
def secondsText (ms : ℤ) : String := toString ⌊(ms : ℚ) / 1000 + 1 / 2⌋

/-- The freshness verdict on the newest usable candle. -/
def priceFrom (timeframe : Timeframe) (nowMs : ℤ) (candle : PaperCandle) :
    Except MarketRefusal SimulatorMarketPrice :=
  if nowMs - candle.time < 0 then
    .error ⟨"market data timestamp is in the future (clock skew)", true, false⟩
  else if paperStaleThresholdMs timeframe < nowMs - candle.time then
    .error ⟨"market data is stale (" ++ secondsText (nowMs - candle.time) ++ "s old, limit " ++
      secondsText (paperStaleThresholdMs timeframe) ++ "s)", false, true⟩
  else
    .ok ⟨candle.close, candle.time, nowMs - candle.time, paperStaleThresholdMs timeframe, timeframe⟩

/-- The last five rows of a series at or before `nowMs`, newest first. -/
def CandleStore.newest (store : CandleStore) (instrumentId : String) (timeframe : Timeframe)
    (nowMs : ℤ) : List CandleRow :=
  page (fun r => -r.ts) 5 (store.rows.filter fun r =>
    r.instrumentId = instrumentId ∧ r.timeframe = timeframe ∧ r.ts ≤ nowMs)

/-- `latestPrice`: the newest usable row among them. -/
def CandleStore.latestPrice (store : CandleStore) (instrumentId : String) (timeframe : Timeframe)
    (nowMs : ℤ) : Except MarketRefusal SimulatorMarketPrice :=
  if (store.newest instrumentId timeframe nowMs).isEmpty then
    .error ⟨"no market data for timeframe \"" ++ timeframe.text ++ "\"", false, false⟩
  else
    match (store.newest instrumentId timeframe nowMs).findSome? usable with
    | some candle => priceFrom timeframe nowMs candle
    | none => .error ⟨"market data is invalid (non-positive or inverted OHLC)", true, false⟩

end VeltrixEye
