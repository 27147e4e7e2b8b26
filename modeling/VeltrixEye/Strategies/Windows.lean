import VeltrixEye.Strategies.Locality

/-!
# The evaluation service's candle windows (`strategies/evaluation/service.ts`, `market-data/candles.ts`)

`evaluateVersion` sizes one window per role from the configuration (`requiredWindows`), fetches it as a
time span with a row limit (`readRole`) and evaluates every instrument in scope on what it fetched.
-/

namespace VeltrixEye

/-! ## The candle store -/

/-- The stored candles of an instrument and timeframe: unique open times, read in ascending order. -/
structure CandleSeries where
  candles : List CandleDto
  ascending : candles.Pairwise (fun a b => a.time < b.time)

/-- The tables `candles`, `instruments` and `instrument_risk_specs`; the instruments are in
    `(asset_class, symbol)` order and a pip size is `none` when it is absent or unusable. -/
structure MarketStore where
  instruments : List Instrument
  series : Instrument → Timeframe → CandleSeries
  pipSize : Instrument → Option JsNumber

/-- `queryCandles`: `ts >= from AND ts < to ORDER BY ts ASC LIMIT limit`. -/
def CandleSeries.queryCandles (s : CandleSeries) («from» «to» : ℤ) (limit : ℕ) : List CandleDto :=
  (s.candles.filter (fun c => «from» ≤ c.time ∧ c.time < «to»)).take limit

def MarketStore.resolveInstrument (store : MarketStore) (instrument : Instrument) :
    Option Instrument :=
  store.instruments.find? (fun i =>
    i.assetClass = instrument.assetClass ∧ i.symbol = instrument.symbol.toUpper)

/-! ## Windows -/

def MAX_WINDOW_CANDLES : ℕ := 5000

def WINDOW_MARGIN : ℕ := 60

def MIN_WINDOW_CANDLES : ℕ := 120

/-- `TYPE_WINDOW_FLOOR[conditionType] ?? 0`. -/
def typeWindowFloor (conditionType : String) : ℚ :=
  if conditionType = "fvg" then 200
  else if conditionType = "supply" ∨ conditionType = "demand" then 300
  else if conditionType = "htf_alignment" then 100
  else 0

/-- The parameters that size a window. -/
def windowKeys : List String :=
  ["lookbackCandles", "maxAgeCandles", "maxRetestCandles", "period", "atrPeriod"]

/-- The larger of a need and a numeric parameter. -/
def largerNeed (params : List (String × JsValue)) (need : ℚ) (key : String) : ℚ :=
  match JsValue.lookup params key with
  | .number (.fin v) => if need < v then v else need
  | _ => need

/-- The candles a condition may read before its anchor. -/
def conditionNeed (c : StoredCondition) : ℚ :=
  windowKeys.foldl (largerNeed c.params) (typeWindowFloor c.conditionType)

/-- The window one condition asks for. -/
def conditionWindow (c : StoredCondition) : ℕ :=
  min MAX_WINDOW_CANDLES (⌈conditionNeed c⌉.toNat + anchorOffsetOf c.params + WINDOW_MARGIN)

def requiredWindows (config : VersionConfig) (role : TimeframeRole) : ℕ :=
  ((config.conditions.filter (fun c => c.role = role)).map conditionWindow).foldl max
    MIN_WINDOW_CANDLES

/-! ## The service -/

def MAX_EVALUATION_INSTRUMENTS : ℕ := 50

inductive VersionStatus where
  | draft
  | published
  | deprecated
  deriving DecidableEq

/-- What the service reads of a strategy version. -/
structure StrategyVersion where
  status : VersionStatus
  config : VersionConfig

/-- The refusals of `evaluateVersion`. -/
inductive EvaluationServiceError where
  | draftVersion
  | timeframesMissing
  | riskMissing
  | scopeMissing
  | scopeEmpty
  | scopeTooLarge (count : ℕ)
  | unknownInstrument (instrument : Instrument)
  | engine (error : EvaluationError)
  deriving DecidableEq

structure InstrumentEvaluation where
  instrument : Instrument
  directions : EvaluationResult
  anyPassed : Bool

def MarketStore.readRole (store : MarketStore) (instrument : Instrument) (timeframe : Timeframe)
    (windowCandles : ℕ) (asOfMs : ℤ) : List CandleDto :=
  let periodMs := timeframeMinutes timeframe * 60000
  (store.series instrument timeframe).queryCandles (asOfMs - windowCandles * periodMs) asOfMs
    windowCandles

/-- The candles the service fetches for an instrument. -/
def MarketStore.readRoles (store : MarketStore) (config : VersionConfig)
    (timeframes : StrategyTimeframes) (instrument : Instrument) (asOfMs : ℤ) : CandleSet where
  htf_bias := store.readRole instrument timeframes.htf_bias (requiredWindows config .htf_bias) asOfMs
  setup := store.readRole instrument timeframes.setup (requiredWindows config .setup) asOfMs
  entry := store.readRole instrument timeframes.entry (requiredWindows config .entry) asOfMs

def resolveInstruments (store : MarketStore) (config : VersionConfig) :
    Except EvaluationServiceError (List Instrument) :=
  match config.marketScope with
  | none => .error .scopeMissing
  | some (.instruments instruments) =>
    if instruments.isEmpty then .error .scopeEmpty
    else if MAX_EVALUATION_INSTRUMENTS < instruments.length then
      .error (.scopeTooLarge instruments.length)
    else .ok instruments
  | some .all => .ok (store.instruments.take MAX_EVALUATION_INSTRUMENTS)

/-- One instrument of `evaluateVersion`. -/
def evaluateInstrument (store : MarketStore) (config : VersionConfig)
    (timeframes : StrategyTimeframes) (asOfMs : ℤ) (instrument : Instrument) :
    Except EvaluationServiceError InstrumentEvaluation := do
  let some resolved := store.resolveInstrument instrument | throw (.unknownInstrument instrument)
  let result ← (evaluate config (store.readRoles config timeframes resolved asOfMs) asOfMs
    (store.pipSize resolved)).mapError .engine
  return ⟨resolved, result, result.long.passed || result.short.passed⟩

def evaluateVersion (store : MarketStore) (version : StrategyVersion) (asOfMs : ℤ) :
    Except EvaluationServiceError (List InstrumentEvaluation) :=
  if version.status = .draft then .error .draftVersion
  else
    match version.config.timeframes, version.config.risk with
    | none, _ => .error .timeframesMissing
    | some _, none => .error .riskMissing
    | some timeframes, some _ => do
      let instruments ← resolveInstruments store version.config
      instruments.mapM (evaluateInstrument store version.config timeframes asOfMs)

/-- The complete stored series of an instrument's roles. -/
def MarketStore.complete (store : MarketStore) (timeframes : StrategyTimeframes)
    (instrument : Instrument) : CandleSet where
  htf_bias := (store.series instrument timeframes.htf_bias).candles
  setup := (store.series instrument timeframes.setup).candles
  entry := (store.series instrument timeframes.entry).candles

/-! ## Coverage -/

/-- The fetch of `windowCandles` periods before `asOfMs` is not cut by its row limit and goes back to
    the last `count` closed candles. -/
def CandleSeries.Covers (s : CandleSeries) (periodMs asOfMs : ℤ) (windowCandles count : ℕ) : Prop :=
  (s.candles.filter (fun c =>
    asOfMs - windowCandles * periodMs ≤ c.time ∧ c.time < asOfMs)).length ≤ windowCandles ∧
  ∀ c ∈ (closedCandles s.candles periodMs asOfMs).rtake count,
    asOfMs - windowCandles * periodMs ≤ c.time

/-- The fetch goes back as far as every condition and the candidate levels read. -/
structure MarketStore.Covers (store : MarketStore) (config : VersionConfig)
    (timeframes : StrategyTimeframes) (instrument : Instrument) (asOfMs : ℤ) : Prop where
  conditions : ∀ c ∈ config.conditions, ∀ params, parseParams c.conditionType c.params = some params →
    (store.series instrument (timeframes.of c.role)).Covers (timeframes.periodMs c.role) asOfMs
      (requiredWindows config c.role) (anchorOffsetOf c.params + params.reach)
  candidate : (store.series instrument timeframes.setup).Covers (timeframes.periodMs .setup) asOfMs
    (requiredWindows config .setup) CANDIDATE_WINDOW

theorem timeframeMinutes_pos (tf : Timeframe) : 0 < timeframeMinutes tf := by
  cases tf <;> decide

theorem StrategyTimeframes.periodMs_pos (timeframes : StrategyTimeframes) (role : TimeframeRole) :
    0 < timeframes.periodMs role :=
  mul_pos (timeframeMinutes_pos _) (by decide)

theorem closedCandles_eq {l : List CandleDto} (h : l.Pairwise (fun a b => a.time < b.time))
    (periodMs asOfMs : ℤ) :
    closedCandles l periodMs asOfMs = l.filter (fun c => c.time + periodMs ≤ asOfMs) :=
  ((h.filter _).imp fun hab => hab.le).insertionSort_eq

section Fetch

variable {s : CandleSeries} {periodMs asOfMs : ℤ} {windowCandles count : ℕ}

/-- What is fetched and closed is the closed series from the span's start on. -/
theorem CandleSeries.closed_query (hperiod : 0 < periodMs)
    (hlimit : (s.candles.filter (fun c =>
      asOfMs - windowCandles * periodMs ≤ c.time ∧ c.time < asOfMs)).length ≤ windowCandles) :
    closedCandles (s.queryCandles (asOfMs - windowCandles * periodMs) asOfMs windowCandles) periodMs
        asOfMs =
      (closedCandles s.candles periodMs asOfMs).filter
        (fun c => decide (asOfMs - windowCandles * periodMs ≤ c.time)) := by
  unfold CandleSeries.queryCandles
  rw [List.take_of_length_le hlimit, closedCandles_eq (s.ascending.filter _),
    closedCandles_eq s.ascending, List.filter_filter, List.filter_filter]
  refine List.filter_congr fun c _ => ?_
  rw [Bool.eq_iff_iff]
  simp only [Bool.and_eq_true, decide_eq_true_eq]
  constructor
  · rintro ⟨hclosed, hfrom, -⟩
    exact ⟨hfrom, hclosed⟩
  · rintro ⟨hfrom, hclosed⟩
    exact ⟨hclosed, hfrom, by omega⟩

theorem CandleSeries.Covers.fetched (h : s.Covers periodMs asOfMs windowCandles count)
    (hperiod : 0 < periodMs) :
    let fetched := closedCandles
      (s.queryCandles (asOfMs - windowCandles * periodMs) asOfMs windowCandles) periodMs asOfMs
    let closed := closedCandles s.candles periodMs asOfMs
    fetched <:+ closed ∧ (fetched = closed ∨ count ≤ fetched.length) := by
  intro fetched closed
  have hascending : closed.Pairwise (fun a b => a.time < b.time) := by
    rw [show closed = _ from closedCandles_eq s.ascending periodMs asOfMs]
    exact s.ascending.filter _
  have hfetched : fetched = _ := CandleSeries.closed_query hperiod h.1
  rw [hfetched]
  exact ⟨Suffix.filter_ge_suffix hascending _, (Suffix.covers_cases h.2).symm⟩

end Fetch

theorem closedSet_of (timeframes : StrategyTimeframes) (candles : CandleSet) (asOfMs : ℤ)
    (role : TimeframeRole) :
    (closedSet timeframes candles asOfMs).of role =
      closedCandles (candles.of role) (timeframes.periodMs role) asOfMs := by
  cases role <;> rfl

theorem MarketStore.readRoles_of (store : MarketStore) (config : VersionConfig)
    (timeframes : StrategyTimeframes) (instrument : Instrument) (asOfMs : ℤ) (role : TimeframeRole) :
    (store.readRoles config timeframes instrument asOfMs).of role =
      (store.series instrument (timeframes.of role)).queryCandles
        (asOfMs - requiredWindows config role * timeframes.periodMs role) asOfMs
        (requiredWindows config role) := by
  cases role <;> rfl

theorem MarketStore.complete_of (store : MarketStore) (timeframes : StrategyTimeframes)
    (instrument : Instrument) (role : TimeframeRole) :
    (store.complete timeframes instrument).of role =
      (store.series instrument (timeframes.of role)).candles := by
  cases role <;> rfl

theorem evaluate_fetched_eq {store : MarketStore} {config : VersionConfig}
    {timeframes : StrategyTimeframes} {instrument : Instrument} {asOfMs : ℤ}
    (hbounded : ∀ c ∈ config.conditions, ∀ params,
      parseParams c.conditionType c.params = some params → params.unbounded = false)
    (hcovers : store.Covers config timeframes instrument asOfMs) (risk : VersionRisk)
    (pipSize : Option JsNumber) (direction : Direction) :
    evaluateClosed config risk
        (closedSet timeframes (store.readRoles config timeframes instrument asOfMs) asOfMs) pipSize
        direction =
      evaluateClosed config risk
        (closedSet timeframes (store.complete timeframes instrument) asOfMs) pipSize direction := by
  set fetched := closedSet timeframes (store.readRoles config timeframes instrument asOfMs) asOfMs
    with hfetched
  set complete := closedSet timeframes (store.complete timeframes instrument) asOfMs with hcomplete
  have hof : ∀ role, fetched.of role = closedCandles
      ((store.series instrument (timeframes.of role)).queryCandles
        (asOfMs - requiredWindows config role * timeframes.periodMs role) asOfMs
        (requiredWindows config role)) (timeframes.periodMs role) asOfMs := by
    intro role
    rw [hfetched, closedSet_of, MarketStore.readRoles_of]
  have hof' : ∀ role, complete.of role = closedCandles
      (store.series instrument (timeframes.of role)).candles (timeframes.periodMs role) asOfMs := by
    intro role
    rw [hcomplete, closedSet_of, MarketStore.complete_of]
  obtain ⟨hsetup, hsetupCovered⟩ := hcovers.candidate.fetched (timeframes.periodMs_pos .setup)
  have hcandidate := deriveCandidate_local risk hsetup hsetupCovered pipSize direction
  have hlast : fetched.setup.getLast? = complete.setup.getLast? := by
    rcases hsetupCovered with hall | hlength
    · exact congrArg List.getLast? hall
    · have hwindow : 0 < CANDIDATE_WINDOW := by decide
      exact Suffix.getLast?_eq_of_suffix hsetup (List.ne_nil_of_length_pos (hwindow.trans_le hlength))
  have hsame : DirectionContext.SameInputs
      ⟨direction, risk, fetched, deriveCandidate risk fetched.setup pipSize direction⟩
      ⟨direction, risk, complete, deriveCandidate risk complete.setup pipSize direction⟩ :=
    ⟨rfl, rfl, hcandidate⟩
  refine (evaluateDirection_eq_iff config hsame _ hlast).mpr fun c hc => ?_
  rcases hparse : parseParams c.conditionType c.params with _ | params
  · simp only [conditionStatus, hparse]
  · refine conditionStatus_local hsame ?_
    obtain ⟨hsuffix, hcovered⟩ :=
      (hcovers.conditions c hc params hparse).fetched (timeframes.periodMs_pos c.role)
    rw [← hof, ← hof'] at hsuffix hcovered
    refine ⟨hsuffix, hcovered.imp id fun hlength params' hparse' => ?_⟩
    cases hparse.symm.trans hparse'
    exact ⟨hbounded c hc params hparse, hlength⟩

theorem evaluateInstrument_ok {store : MarketStore} {config : VersionConfig}
    {timeframes : StrategyTimeframes} {asOfMs : ℤ} {instrument : Instrument}
    {e : InstrumentEvaluation}
    (h : evaluateInstrument store config timeframes asOfMs instrument = .ok e) :
    evaluate config (store.readRoles config timeframes e.instrument asOfMs) asOfMs
      (store.pipSize e.instrument) = .ok e.directions := by
  unfold evaluateInstrument at h
  split at h
  · rename_i resolved _
    rw [Except.bind_ok_iff] at h
    obtain ⟨result, hresult, h⟩ := h
    cases h
    rcases heval : evaluate config (store.readRoles config timeframes resolved asOfMs) asOfMs
      (store.pipSize resolved) with error | result'
    · rw [heval] at hresult
      cases hresult
    · rw [heval] at hresult
      cases hresult
      rfl
  · cases h

theorem evaluateVersion_ok {store : MarketStore} {version : StrategyVersion} {asOfMs : ℤ}
    {out : List InstrumentEvaluation} (h : evaluateVersion store version asOfMs = .ok out) :
    ∃ timeframes risk, version.config.timeframes = some timeframes ∧
      version.config.risk = some risk ∧
      ∀ e ∈ out, evaluate version.config
        (store.readRoles version.config timeframes e.instrument asOfMs) asOfMs
        (store.pipSize e.instrument) = .ok e.directions := by
  unfold evaluateVersion at h
  split at h
  · cases h
  split at h
  · cases h
  · cases h
  · rename_i timeframes risk htimeframes hrisk
    rw [Except.bind_ok_iff] at h
    obtain ⟨instruments, -, h⟩ := h
    refine ⟨timeframes, risk, htimeframes, hrisk, fun e he => ?_⟩
    obtain ⟨instrument, -, he⟩ := Except.mapM_ok_of_mem h e he
    exact evaluateInstrument_ok he

/-! ## A gap longer than the window -/

/-- A bullish rejection candle on the setup timeframe. -/
def sampleRejection : StoredCondition where
  conditionType := "rejection_candle"
  classification := .required
  timeframeRole := .role .setup
  params := [("direction", .string "bullish"), ("minWickBodyRatio", .number (.fin 2)),
    ("anchorOffsetCandles", .number (.fin 0))]

def sampleInstrument : Instrument := ⟨"forex", "EURUSD"⟩

/-- A published version with that one condition. -/
def sampleVersion : StrategyVersion where
  status := .published
  config :=
    { timeframes := some ⟨.h4, .h1, .m15⟩
      marketScope := some (.instruments [sampleInstrument])
      sessionFilters := []
      risk := some sampleSessionRisk
      ruleGroups := [⟨"trigger", .and, [sampleRejection]⟩] }

theorem noCandles_ascending : ([] : List CandleDto).Pairwise fun a b => a.time < b.time := List.Pairwise.nil

/-- A store with one hourly candle, which opened at 01:00 and has a long lower wick. -/
def sampleStore : MarketStore where
  instruments := [sampleInstrument]
  series := fun _ timeframe =>
    if timeframe = .h1 then
      ⟨[⟨3600000, .fin 5, .fin 6, .fin 1, .fin 6, none⟩], List.pairwise_singleton _ _⟩
    else ⟨[], noCandles_ascending⟩
  pipSize := fun _ => none

end VeltrixEye
