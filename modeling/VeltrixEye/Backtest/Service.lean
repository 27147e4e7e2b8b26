import VeltrixEye.Lib.Pool
import VeltrixEye.Lib.Rows
import VeltrixEye.Lib.SmallUuid
import VeltrixEye.Backtest.ConfigHash
import VeltrixEye.Billing.Contracts
import VeltrixEye.Strategies.Replay

/-!
# Creating a backtest (`backtest/service.ts`, tables `backtest_runs` and `backtest_trades`)

`createBacktest` validates the request, loads candles and runs the engine; then one transaction, which
holds the row of the user, checks the monthly quota and inserts the run with its trades, unless a run of
the same key exists, which is read back instead.

* `CallStage`, `callStep` — where a call stands, and its next statement.
-/

namespace VeltrixEye.Backtests

def BACKTEST_ENGINE_VERSION : String := "m6-backtest-6"

def MAX_BACKTEST_ROLE_CANDLES : ℕ := 60000

def MAX_BACKTEST_TRADES : ℕ := 500

/-- `MAX_RANGE_MS`: ten years. -/
def MAX_RANGE_MS : ℤ := 10 * 365 * 24 * 3600 * 1000

/-! ## Tables -/

/-- The columns of `backtest_runs_idempotency_uniq`. -/
structure RunKey where
  userId : Uuid
  strategyVersionId : Uuid
  instrument : Instrument
  direction : BacktestDirection
  engineVersion : String
  fromMs : ℤ
  toMs : ℤ
  configHash : String
  deriving DecidableEq

/-- `backtest_runs`. -/
structure BacktestRun where
  id : Uuid
  key : RunKey
  strategyId : Uuid
  exitPolicy : BacktestExitPolicy
  costPolicy : BacktestCostPolicy
  metrics : BacktestMetrics
  createdAt : ℤ
  deriving DecidableEq

/-- `backtest_trades`, without the identity column. -/
structure BacktestTradeRow where
  runId : Uuid
  trade : BacktestTrade
  deriving DecidableEq

/-- The two tables; the trades of a run in `seq` order. -/
structure BacktestTables where
  runs : List BacktestRun
  trades : List BacktestTradeRow
  deriving DecidableEq

namespace BacktestTables

variable (d : BacktestTables)

def findExistingRun (key : RunKey) : Option BacktestRun := d.runs.find? fun r => r.key = key

/-- The trades of a run. -/
def tradesOf (runId : Uuid) : List BacktestTrade :=
  (d.trades.filter fun t => t.runId = runId).map BacktestTradeRow.trade

/-- The runs counted against `maxBacktestsPerMonth`. -/
def countThisMonth (userId : Uuid) (monthStart : ℤ) : ℕ :=
  (d.runs.filter fun r => r.key.userId = userId ∧ monthStart ≤ r.createdAt).length

end BacktestTables

/-! ## Requests -/

inductive BacktestServiceError where
  | invalidInstrument
  | invalidRange
  | invalidPolicy
  | versionNotFound
  | draftVersion
  | timeframesMissing
  | riskMissing
  | unknownInstrument
  | rangeTooLong (role : TimeframeRole)
  | engine (error : BacktestError)
  | userNotFound
  | limitReached
  | conflictUnresolved
  | database

structure CreateBacktestArgs where
  userId : Uuid
  strategyId : Uuid
  versionId : Uuid
  instrument : Instrument
  direction : Option BacktestDirection
  fromMs : JsNumber
  toMs : JsNumber
  exitPolicy : JsValue
  costPolicy : JsValue
  nowMs : ℤ

/-- What the service is built on: the engines, the text of numbers, the hash, and what the columns of a
    run and of a trade can hold. -/
structure BacktestDeps (X : Type) where
  engines : VersionConfig → BacktestFunctions X
  numbers : NumberText
  sha256 : String → String
  /-- The metrics fit the `numeric` columns of the run. -/
  metricsFit : BacktestMetrics → Bool
  /-- A trade as its row gives it back. -/
  storeTrade : BacktestTrade → Option BacktestTrade

/-- What a call finds in the rest of the database when it takes a step. -/
structure BacktestEnv where
  market : MarketStore
  /-- `getVersion` by user, strategy and version: masked unless the user owns it. -/
  versions : Uuid → Uuid → Uuid → Option StrategyVersion
  userExists : Bool
  maxBacktestsPerMonth : ℕ
  now : ℤ
  /-- `date_trunc('month', now())`. -/
  monthStart : ℤ
  /-- `gen_random_uuid()`. -/
  newId : Uuid

def ASSET_CLASSES : List String :=
  ["forex", "commodity", "index", "crypto", "stock", "etf", "other"]

/-- `instrumentSymbolSchema`. -/
def parseSymbol (symbol : String) : Option String :=
  let trimmed := Billing.jsTrim symbol
  match trimmed.toList with
  | [] => none
  | first :: rest =>
    if rest.length < 32 ∧ first.isAlphanum ∧
        rest.all (fun c => c.isAlphanum || c ∈ ['.', '_', ':', '-']) then
      some trimmed.toUpper
    else none

/-- `backtestInstrumentSchema`. -/
def parseBacktestInstrument (instrument : Instrument) : Option Instrument := do
  let symbol ← parseSymbol instrument.symbol
  if instrument.assetClass ∈ ASSET_CLASSES then some ⟨instrument.assetClass, symbol⟩ else none

/-- `isValidConfigHash`: 64 hexadecimal digits. -/
def isValidConfigHash (hash : String) : Bool :=
  hash.toList.length == 64 && hash.toList.all fun c => c ∈ "0123456789abcdef".toList

/-- A request that was accepted before any candle is read. -/
structure ValidRequest where
  key : RunKey
  config : VersionConfig
  timeframes : StrategyTimeframes
  exitPolicy : BacktestExitPolicy
  costPolicy : BacktestCostPolicy

variable {X : Type} (deps : BacktestDeps X) (env : BacktestEnv)

/-- Steps 1 to 5 of `createBacktest`. -/
def validate (args : CreateBacktestArgs) : Except BacktestServiceError ValidRequest := do
  let some instrument := parseBacktestInstrument args.instrument | throw .invalidInstrument
  let some fromMs := rangeBound args.fromMs | throw .invalidRange
  let some toMs := rangeBound args.toMs | throw .invalidRange
  if toMs ≤ fromMs ∨ args.nowMs < toMs ∨ MAX_RANGE_MS < toMs - fromMs then throw .invalidRange
  let some parsed := computeConfigHash deps.numbers deps.sha256 args.exitPolicy args.costPolicy
    | throw .invalidPolicy
  if ¬isValidConfigHash parsed.hash then throw .invalidPolicy
  let some version := env.versions args.userId args.strategyId args.versionId | throw .versionNotFound
  if version.status = .draft then throw .draftVersion
  let some timeframes := version.config.timeframes | throw .timeframesMissing
  if version.config.risk.isNone then throw .riskMissing
  let some resolved := env.market.resolveInstrument instrument | throw .unknownInstrument
  return {
    key := ⟨args.userId, args.versionId, resolved, args.direction.getD .both, BACKTEST_ENGINE_VERSION,
      fromMs, toMs, parsed.hash⟩
    config := version.config
    timeframes
    exitPolicy := parsed.exitPolicy
    costPolicy := parsed.costPolicy }

/-- The window of a role, given the setup candles; the setup role's own window needs none. -/
def ValidRequest.window (v : ValidRequest) (market : MarketStore) (role : TimeframeRole) :
    BacktestRoleWindow :=
  let setupWindow :=
    setupCoverageWindow v.config v.timeframes v.key.fromMs v.key.toMs v.exitPolicy.maxHoldCandles
  if role = .setup then setupWindow
  else
    let setup := (market.series v.key.instrument v.timeframes.setup).load setupWindow
    roleCoverageWindow v.config v.timeframes role v.key.fromMs
      (anchorHorizonMs setup (v.timeframes.periodMs .setup) v.key.fromMs v.key.toMs)

/-- `assertWithinRoleCap`, for a role that is loaded. -/
def ValidRequest.withinRoleCap (v : ValidRequest) (market : MarketStore) (role : TimeframeRole) : Bool :=
  (role != .setup && !requiredCoverage v.config.view role) ||
    (v.window market role).limit ≤ MAX_BACKTEST_ROLE_CANDLES

/-- The engine's run of a request over the stored candles. -/
def ValidRequest.run (v : ValidRequest) (market : MarketStore) :
    Except BacktestError BacktestEngineResult :=
  runBacktest (deps.engines v.config) (backtestInput market v.config v.timeframes v.key.instrument
    v.key.fromMs v.key.toMs v.exitPolicy.maxHoldCandles v.key.direction v.exitPolicy.value
    v.costPolicy.value)

/-- Steps 6 and 7 of `createBacktest`. -/
def replay (v : ValidRequest) : Except BacktestServiceError BacktestEngineResult := do
  if ¬v.withinRoleCap env.market .setup then throw (.rangeTooLong .setup)
  if ¬v.withinRoleCap env.market .htf_bias then throw (.rangeTooLong .htf_bias)
  if ¬v.withinRoleCap env.market .entry then throw (.rangeTooLong .entry)
  (v.run deps env.market).mapError .engine

/-! ## Calls -/

structure CreateBacktestResult where
  run : BacktestRun
  trades : List BacktestTrade
  truncated : Bool
  created : Bool
  deriving DecidableEq

/-- What a call carries into its transaction. -/
structure PreparedRun where
  request : ValidRequest
  result : BacktestEngineResult

inductive CallStage where
  | preparing
  | locking (p : PreparedRun)
  /-- The row of the user is locked from here to the commit. -/
  | counting (p : PreparedRun)
  | inserting (p : PreparedRun)
  /-- The run is inserted, its trades are not. -/
  | recording (run : BacktestRun) (trades : List BacktestTrade)
  | committing (run : BacktestRun) (rows : List BacktestTradeRow) (truncated : Bool)
  | rereading (run : BacktestRun) (truncated : Bool)
  /-- The insert wrote nothing; the transaction is over. -/
  | finding (key : RunKey)
  | replaying (run : BacktestRun)
  | done (result : CreateBacktestResult)
  | failed (error : BacktestServiceError)

/-- What a call that is over returned. -/
def CallStage.result? : CallStage → Option CreateBacktestResult
  | .done result => some result
  | _ => none

structure BacktestCall where
  args : CreateBacktestArgs
  stage : CallStage

/-- The user whose row the call has locked. -/
def BacktestCall.lockedUser (call : BacktestCall) : Option Uuid :=
  match call.stage with
  | .counting _ => some call.args.userId
  | .inserting _ => some call.args.userId
  | .recording _ _ => some call.args.userId
  | .committing _ _ _ => some call.args.userId
  | _ => none

/-- The id of the run that is inserted and not committed. -/
def BacktestCall.pendingId (call : BacktestCall) : Option Uuid :=
  match call.stage with
  | .recording run _ => some run.id
  | .committing run _ _ => some run.id
  | _ => none

/-- The next statement of a call. -/
def callStep (d : BacktestTables) (others : List BacktestCall) (call : BacktestCall) :
    BacktestTables × CallStage :=
  match call.stage with
  | .preparing =>
    match validate deps env call.args with
    | .error e => (d, .failed e)
    | .ok request =>
      match replay deps env request with
      | .error e => (d, .failed e)
      | .ok result => (d, .locking ⟨request, result⟩)
  | .locking p =>
    if others.any fun t => t.lockedUser = some call.args.userId then (d, .locking p)
    else if env.userExists then (d, .counting p)
    else (d, .failed .userNotFound)
  | .counting p =>
    if env.maxBacktestsPerMonth ≤ d.countThisMonth call.args.userId env.monthStart then
      (d, .failed .limitReached)
    else (d, .inserting p)
  | .inserting p =>
    -- The values are converted to their columns before the conflict is looked for.
    if ¬deps.metricsFit p.result.metrics then (d, .failed .database)
    else if d.runs.any fun r => r.key = p.request.key then (d, .finding p.request.key)
    else if others.any fun t => t.pendingId = some env.newId then (d, .inserting p)
    else if d.runs.any fun r => r.id = env.newId then (d, .failed .database)
    else
      (d, .recording
        ⟨env.newId, p.request.key, call.args.strategyId, p.request.exitPolicy, p.request.costPolicy,
          p.result.metrics, env.now⟩ p.result.trades)
  | .recording run trades =>
    match (trades.take MAX_BACKTEST_TRADES).mapM deps.storeTrade with
    | none => (d, .failed .database)
    | some stored =>
      (d, .committing run (stored.map fun t => ⟨run.id, t⟩) (MAX_BACKTEST_TRADES < trades.length))
  | .committing run rows truncated =>
    ({ runs := d.runs ++ [run], trades := d.trades ++ rows }, .rereading run truncated)
  | .rereading run truncated => (d, .done ⟨run, d.tradesOf run.id, truncated, true⟩)
  | .finding key =>
    match d.findExistingRun key with
    | some existing => (d, .replaying existing)
    | none => (d, .failed .conflictUnresolved)
  | .replaying run =>
    let trades := d.tradesOf run.id
    (d, .done ⟨run, trades, trades.length < run.metrics.setupsDetected, false⟩)
  | .done result => (d, .done result)
  | .failed error => (d, .failed error)

def callTaskStep (d : BacktestTables) (others : List BacktestCall) (call : BacktestCall) :
    BacktestTables × BacktestCall :=
  let r := callStep deps env d others call
  (r.1, { call with stage := r.2 })

/-- A statement fails: the transaction is rolled back. -/
def failCall (call : BacktestCall) : BacktestCall :=
  { call with
    stage := match call.stage with
      | .done result => .done result
      | .failed error => .failed error
      | _ => .failed .database }

/-- `createBacktest` with no other call beside it. -/
def createBacktest (d : BacktestTables) (args : CreateBacktestArgs) : BacktestTables × BacktestCall :=
  (fun s : BacktestTables × BacktestCall => callTaskStep deps env s.1 [] s.2)^[7] (d, ⟨args, .preparing⟩)

abbrev BacktestPool := Pool BacktestTables BacktestCall

inductive BacktestAction where
  | create (args : CreateBacktestArgs)
  | advance (w : ℕ) (env : BacktestEnv)
  | fail (w : ℕ)

/-- One step of any number of calls. -/
def backtestStep (p : BacktestPool) : BacktestAction → BacktestPool
  | .create args => p.spawn ⟨args, .preparing⟩
  | .advance w env => p.advance (callTaskStep deps env) w
  | .fail w => p.advance (fun d _ t => (d, failCall t)) w

/-- The key a request asks for: the same for every spelling of its policies and of its symbol. -/
def requestKey (args : CreateBacktestArgs) : Option RunKey := do
  let instrument ← parseBacktestInstrument args.instrument
  let fromMs ← rangeBound args.fromMs
  let toMs ← rangeBound args.toMs
  let parsed ← computeConfigHash deps.numbers deps.sha256 args.exitPolicy args.costPolicy
  return ⟨args.userId, args.versionId, ⟨instrument.assetClass, instrument.symbol.toUpper⟩,
    args.direction.getD .both, BACKTEST_ENGINE_VERSION, fromMs, toMs, parsed.hash⟩

end VeltrixEye.Backtests
