import VeltrixEye.Execution.SamplePrices
import VeltrixEye.Lib.Numerals
import VeltrixEye.Execution.Rows

/-!
# The stop / target sweep (`PaperExecutionService.evaluateOpenPositions`)

The user's open positions are loaded (at most 200, oldest first) and evaluated one by one: the
candles since the position was opened are read, `detectExit` looks for the first level touched,
and an exit order is submitted for it; without one the mark price is refreshed.  Anything thrown
ends the sweep.

`submitExitOrder` is a parameter here: `SweepEnv` says, for every exit the sweep may submit, how
that call ends.

Principal result: `exit_submitted_as_required_iff` — the sweep submits the exit the market path
calls for exactly when the path is quiet, or the sweep gets to the position and the first touching
candle is inside the page that `candlesSince` reads.
-/

namespace VeltrixEye

open Pages

/-! ## Evaluating one position -/

/-- The arguments of `submitExitOrder` that the evaluation decides. -/
structure ExitRequest where
  positionId : String
  kind : PaperExitReason
  quantity : JsNumber
  referencePrice : JsNumber
  referencePriceMs : ℤ

/-- `PaperPositionOutcomeDto`, less the order, fills and events it carries for display. -/
structure PaperPositionOutcome where
  progressed : Bool
  positionId : String
  exitReason : Option PaperExitReason
  realizedPl : Option JsNumber
  markPrice : Option JsNumber

/-- What the evaluation reads, and how the exits it submits end. -/
structure SweepEnv where
  candles : CandleStore
  instrumentSpec : String → String → Option InstrumentRiskSpec
  submitExitOrder : ExitRequest → Except ServiceError (Option PaperPositionOutcome)

/-- What evaluating one position did: the exit it submitted, and how it ended. -/
structure PositionEvaluation where
  submitted : Option ExitRequest
  result : Except ServiceError (Option PaperPositionOutcome)

def SweepEnv.submit (env : SweepEnv) (request : ExitRequest) : PositionEvaluation :=
  ⟨some request, env.submitExitOrder request⟩

/-- The detection of `evaluatePosition`: both levels must be set. -/
def detectionFor (position : LoadedPosition) (candles : List PaperCandle) : Option ExitDetection :=
  match position.stopLossPrice, position.takeProfitPrice with
  | some stopLoss, some takeProfit =>
    detectExit position.direction (.fin stopLoss.toRat) (.fin takeProfit.toRat) candles
  | _, _ => none

/-- The refresh of the mark price and the unrealized P&L. -/
def refreshMark (position : LoadedPosition) (spec : InstrumentRiskSpec)
    (lastCandle : Option PaperCandle) : Except ServiceError (Option PaperPositionOutcome) :=
  match lastCandle with
  | none => .ok none
  | some candle =>
    match Dec.fromNumber (.fin position.averageEntryPrice.toRat), Dec.fromNumber candle.close,
      Dec.fromNumber (.fin position.quantity.toRat) with
    | some entry, some mark, some quantity => do
      match ← throwOverflow (unrealizedPl ⟨position.direction, entry, mark, quantity, some spec⟩ mark) with
      | none => return none
      | some gross =>
        let _ ← storeDec gross
        let _ ← storeAmount candle.close
        return some ⟨true, position.id, none, none, some candle.close⟩
    | _, _, _ => .ok none

/-- The exit request of a detection: it fills at the level that was touched. -/
def exitRequestFor (position : LoadedPosition) (detection : ExitDetection)
    (lastCandle : Option PaperCandle) (nowMs : ℤ) : ExitRequest where
  positionId := position.id
  kind := detection.reason
  quantity := .fin position.quantity.toRat
  referencePrice := detection.level
  referencePriceMs := (lastCandle.map PaperCandle.time).getD nowMs

/-- The exit request of a forced close. -/
def closeRequestFor (position : LoadedPosition) (price : SimulatorMarketPrice) (nowMs : ℤ) :
    ExitRequest where
  positionId := position.id
  kind := .close
  quantity := .fin position.quantity.toRat
  referencePrice := price.price
  referencePriceMs := nowMs

def evaluatePosition (env : SweepEnv) (nowMs : ℤ) (forceClose : Bool) (position : LoadedPosition) :
    PositionEvaluation :=
  match position.openedByOrderId, position.instrumentId, position.timeframe with
  | some _, some instrumentId, some timeframe =>
    let candles := env.candles.candlesSince instrumentId timeframe position.openedAt nowMs 500
    match env.instrumentSpec position.assetClass position.symbol with
    | none => ⟨none, .ok none⟩
    | some spec =>
      if forceClose then
        match env.candles.latestPrice instrumentId timeframe nowMs with
        | .error _ => ⟨none, .ok none⟩
        | .ok price => env.submit (closeRequestFor position price nowMs)
      else
        match detectionFor position candles with
        | some detection => env.submit (exitRequestFor position detection candles.getLast? nowMs)
        | none => ⟨none, refreshMark position spec candles.getLast?⟩
  -- inconsistent metadata is recorded for reconciliation and nothing is submitted
  | _, _, _ => ⟨none, .ok none⟩

/-! ## The sweep -/

/-- What a sweep did: the exits submitted, in order, the outcomes collected and the error that
    ended it early, if any. -/
structure SweepResult where
  submitted : List ExitRequest
  outcomes : List PaperPositionOutcome
  thrown : Option ServiceError

/-- The loop of `evaluateOpenPositions`. -/
def sweep (env : SweepEnv) (nowMs : ℤ) : List LoadedPosition → SweepResult
  | [] => ⟨[], [], none⟩
  | position :: rest =>
    let evaluation := evaluatePosition env nowMs false position
    match evaluation.result with
    | .error e => ⟨evaluation.submitted.toList, [], some e⟩
    | .ok outcome =>
      let after := sweep env nowMs rest
      ⟨evaluation.submitted.toList ++ after.submitted, outcome.toList ++ after.outcomes, after.thrown⟩

/-- `loadOpenPositions`: `ORDER BY opened_at ASC LIMIT 200`. -/
def loadOpenPositions (positions : List LoadedPosition) (userId : String) : List LoadedPosition :=
  page (fun p => p.openedAt) 200
    (positions.filter fun p => p.userId = userId ∧ p.status = .«open» ∧ p.simulated = true)

def evaluateOpenPositions (env : SweepEnv) (positions : List LoadedPosition) (userId : String)
    (nowMs : ℤ) : SweepResult :=
  sweep env nowMs (loadOpenPositions positions userId)

/-- The exit the sweep submitted for a position. -/
def SweepResult.exitFor (result : SweepResult) (positionId : String) : Option PaperExitReason :=
  (result.submitted.find? fun r => r.positionId = positionId).map ExitRequest.kind

/-! ## What the sweep submits -/

variable {env : SweepEnv} {nowMs : ℤ}

theorem evaluatePosition_positionId {forceClose : Bool} {p : LoadedPosition} {r : ExitRequest}
    (h : (evaluatePosition env nowMs forceClose p).submitted = some r) : r.positionId = p.id := by
  unfold evaluatePosition at h
  split at h
  · simp only at h
    split at h
    · cases h
    split at h
    · split at h
      · cases h
      · cases h
        rfl
    · split at h
      · cases h
        rfl
      · cases h
  · cases h

/-- Evaluating the position does not end the sweep. -/
def Returns (env : SweepEnv) (nowMs : ℤ) (p : LoadedPosition) : Prop :=
  ∃ outcome, (evaluatePosition env nowMs false p).result = .ok outcome

/-- The sweep gets to `p`: no position in front of it ends the loop. -/
def Reaches (env : SweepEnv) (nowMs : ℤ) (loaded : List LoadedPosition) (p : LoadedPosition) : Prop :=
  ∃ pre post, loaded = pre ++ p :: post ∧ ∀ q ∈ pre, Returns env nowMs q

theorem reaches_cons {q p : LoadedPosition} {loaded : List LoadedPosition} :
    Reaches env nowMs (q :: loaded) p ↔ p = q ∨ (Returns env nowMs q ∧ Reaches env nowMs loaded p) := by
  constructor
  · rintro ⟨pre, post, heq, hpre⟩
    cases pre with
    | nil =>
      rw [List.nil_append, List.cons.injEq] at heq
      exact .inl heq.1.symm
    | cons x pre =>
      rw [List.cons_append, List.cons.injEq] at heq
      obtain ⟨rfl, rfl⟩ := heq
      refine .inr ⟨hpre q List.mem_cons_self, pre, post, rfl, fun y hy => ?_⟩
      exact hpre y (List.mem_cons_of_mem _ hy)
  · rintro (rfl | ⟨hq, pre, post, rfl, hpre⟩)
    · exact ⟨[], loaded, rfl, by simp⟩
    · refine ⟨q :: pre, post, rfl, fun y hy => ?_⟩
      rcases List.mem_cons.mp hy with rfl | hy
      · exact hq
      · exact hpre y hy

/-- **One loop iteration, and from it the whole sweep:** the exits submitted are those of the
    positions the sweep gets to. -/
theorem mem_sweep_submitted {loaded : List LoadedPosition} {r : ExitRequest} :
    r ∈ (sweep env nowMs loaded).submitted ↔
      ∃ p, Reaches env nowMs loaded p ∧ (evaluatePosition env nowMs false p).submitted = some r := by
  induction loaded with
  | nil =>
    simp [sweep, Reaches]
  | cons q rest ih =>
    unfold sweep
    cases hres : (evaluatePosition env nowMs false q).result with
    | error e =>
      have hq : ¬ Returns env nowMs q := by
        rintro ⟨o, ho⟩
        rw [hres] at ho
        cases ho
      simp [reaches_cons, hq, hres]
    | ok outcome =>
      have hq : Returns env nowMs q := ⟨outcome, hres⟩
      simp [reaches_cons, hq, hres, ih, or_and_right, exists_or]

theorem exitFor_eq_some_iff {loaded : List LoadedPosition} {p : LoadedPosition}
    (hids : ∀ q ∈ loaded, q.id = p.id → q = p) {kind : PaperExitReason} :
    (sweep env nowMs loaded).exitFor p.id = some kind ↔
      Reaches env nowMs loaded p ∧
        ((evaluatePosition env nowMs false p).submitted.map ExitRequest.kind) = some kind := by
  have hown : ∀ r ∈ (sweep env nowMs loaded).submitted, r.positionId = p.id →
      Reaches env nowMs loaded p ∧ (evaluatePosition env nowMs false p).submitted = some r := by
    intro r hr hid
    obtain ⟨q, hq, hsub⟩ := mem_sweep_submitted.mp hr
    have hmem : q ∈ loaded := by
      obtain ⟨pre, post, rfl, -⟩ := hq
      simp
    obtain rfl := hids q hmem ((evaluatePosition_positionId hsub).symm.trans hid)
    exact ⟨hq, hsub⟩
  unfold SweepResult.exitFor
  rw [Option.map_eq_some_iff, Option.map_eq_some_iff]
  constructor
  · rintro ⟨r, hr, hk⟩
    obtain ⟨hreach, hsub⟩ := hown r (List.mem_of_find?_eq_some hr) (by simpa using List.find?_some hr)
    exact ⟨hreach, r, hsub, hk⟩
  · rintro ⟨hreach, r, hsub, hk⟩
    have hmem : r ∈ (sweep env nowMs loaded).submitted := mem_sweep_submitted.mpr ⟨p, hreach, hsub⟩
    have hid : r.positionId = p.id := evaluatePosition_positionId hsub
    cases hfind : (sweep env nowMs loaded).submitted.find? fun r => decide (r.positionId = p.id) with
    | none => exact absurd hid (by simpa using List.find?_eq_none.mp hfind r hmem)
    | some r' =>
      have h' := (hown r' (List.mem_of_find?_eq_some hfind) (by simpa using List.find?_some hfind)).2
      rw [hsub] at h'
      cases h'
      exact ⟨r, rfl, hk⟩

/-! ## What the market path calls for -/

/-- A position the sweep can watch: both levels set, its series known, its instrument specified. -/
structure Watch (env : SweepEnv) (p : LoadedPosition) where
  stopLoss : Numeric 24 10
  takeProfit : Numeric 24 10
  instrumentId : String
  timeframe : Timeframe
  spec : InstrumentRiskSpec
  stopLossPrice_eq : p.stopLossPrice = some stopLoss
  takeProfitPrice_eq : p.takeProfitPrice = some takeProfit
  instrumentId_eq : p.instrumentId = some instrumentId
  timeframe_eq : p.timeframe = some timeframe
  instrumentSpec_eq : env.instrumentSpec p.assetClass p.symbol = some spec

namespace Watch

variable {p : LoadedPosition} (w : Watch env p)

/-- The stored rows with `opened_at < ts ≤ nowMs`, however many there are. -/
def path (nowMs : ℤ) : List CandleRow :=
  env.candles.window w.instrumentId w.timeframe p.openedAt nowMs

/-- The candle touches the stop or the target. -/
def hit (c : PaperCandle) : Bool :=
  touches p.direction (.fin w.stopLoss.toRat) (.fin w.takeProfit.toRat) c

/-- No usable candle of the path touches a level. -/
def Quiet (nowMs : ℤ) : Prop := ∀ r ∈ w.path nowMs, ∀ c, usable r = some c → w.hit c = false

/-- `c`, stored as `r`, is the first usable candle of the path that touches a level. -/
def FirstTouch (nowMs : ℤ) (r : CandleRow) (c : PaperCandle) : Prop :=
  r ∈ w.path nowMs ∧ usable r = some c ∧ w.hit c = true ∧
    ∀ r' ∈ w.path nowMs, ∀ c', usable r' = some c' → w.hit c' = true → r.ts ≤ r'.ts

/-- The exit the path calls for: a stop when the first touching candle touches the stop (alone or
    with the target), a target otherwise, nothing on a quiet path. -/
def ExitRequired (nowMs : ℤ) (submitted : Option PaperExitReason) : Prop :=
  (∀ r c, w.FirstTouch nowMs r c →
    submitted = some (exitReasonOf p.direction (.fin w.stopLoss.toRat) c)) ∧
  (w.Quiet nowMs → submitted = none)

/-- The levels are prices. -/
def LevelsPositive : Prop := 0 < w.stopLoss.toRat ∧ 0 < w.takeProfit.toRat

/-- The first touching candle is on the page `candlesSince` reads. -/
def TouchOnPage (nowMs : ℤ) : Prop :=
  ∃ r c, w.FirstTouch nowMs r c ∧ rank CandleRow.ts (w.path nowMs) r < 500

theorem detectionFor_reason (hlevels : w.LevelsPositive) :
    (detectionFor p (env.candles.candlesSince w.instrumentId w.timeframe p.openedAt nowMs 500)).map
        ExitDetection.reason =
      ((env.candles.candlesSince w.instrumentId w.timeframe p.openedAt nowMs 500).find? w.hit).map
        (exitReasonOf p.direction (.fin w.stopLoss.toRat)) := by
  have hsl : JsNumber.lt 0 (.fin w.stopLoss.toRat) = true := decide_eq_true hlevels.1
  have htp : JsNumber.lt 0 (.fin w.takeProfit.toRat) = true := decide_eq_true hlevels.2
  simp only [detectionFor, w.stopLossPrice_eq, w.takeProfitPrice_eq]
  rw [detectExit_reason hsl htp]
  -- the second cap never bites: the page already has at most 500 candles, all of them usable
  have hlen : (env.candles.candlesSince w.instrumentId w.timeframe p.openedAt nowMs 500).length ≤
      PAPER_MAX_EVALUATION_CANDLES :=
    env.candles.candlesSince_length w.instrumentId w.timeframe p.openedAt nowMs 500
  rw [List.take_of_length_le hlen]
  congr 1
  refine List.find?_congr fun c hc => ?_
  rw [CandleStore.isUsableCandle_of_mem hc]
  rfl

theorem evaluatePosition_kind :
    (evaluatePosition env nowMs false p).submitted.map ExitRequest.kind =
      if p.openedByOrderId.isSome then
        (detectionFor p (env.candles.candlesSince w.instrumentId w.timeframe p.openedAt nowMs 500)).map
          ExitDetection.reason
      else none := by
  unfold evaluatePosition
  rw [w.instrumentId_eq, w.timeframe_eq]
  cases p.openedByOrderId with
  | none => rfl
  | some orderId =>
    simp only [w.instrumentSpec_eq]
    cases detectionFor p (env.candles.candlesSince w.instrumentId w.timeframe p.openedAt nowMs 500) <;> rfl

theorem detectionFor_eq_none (hlevels : ¬ w.LevelsPositive) (candles : List PaperCandle) :
    detectionFor p candles = none := by
  simp only [detectionFor, w.stopLossPrice_eq, w.takeProfitPrice_eq, detectExit]
  rw [if_pos]
  have hsl : JsNumber.lt 0 (.fin w.stopLoss.toRat) = decide (0 < w.stopLoss.toRat) := rfl
  have htp : JsNumber.lt 0 (.fin w.takeProfit.toRat) = decide (0 < w.takeProfit.toRat) := rfl
  rw [LevelsPositive, not_and_or] at hlevels
  simpa [hsl, htp] using hlevels

theorem quiet_or_firstTouch (nowMs : ℤ) : w.Quiet nowMs ∨ ∃ r c, w.FirstTouch nowMs r c := by
  by_cases hquiet : w.Quiet nowMs
  · exact .inl hquiet
  right
  have hsome : ((w.path nowMs).filter fun r => (usable r).any w.hit).toFinset.Nonempty := by
    simp only [Quiet, not_forall, Bool.not_eq_false] at hquiet
    obtain ⟨r, hr, c, hc, hhit⟩ := hquiet
    exact ⟨r, by simp [hr, hc, hhit]⟩
  obtain ⟨r, hr, hmin⟩ := Finset.exists_min_image _ CandleRow.ts hsome
  simp only [List.mem_toFinset, List.mem_filter, Option.any_eq_true] at hr hmin
  obtain ⟨hmem, c, hc, hhit⟩ := hr
  exact ⟨r, c, hmem, hc, hhit, fun r' hr' c' hc' hhit' => hmin r' ⟨hr', c', hc', hhit'⟩⟩

theorem FirstTouch.unique {r r' : CandleRow} {c c' : PaperCandle} (h : w.FirstTouch nowMs r c)
    (h' : w.FirstTouch nowMs r' c') : c = c' := by
  obtain ⟨hr, hc, hhit, hmin⟩ := h
  obtain ⟨hr', hc', hhit', hmin'⟩ := h'
  have hts : r.ts = r'.ts := le_antisymm (hmin r' hr' c' hc' hhit') (hmin' r hr c hc hhit)
  have hrow : r = r' := List.inj_on_of_nodup_map
    (env.candles.window_nodup w.instrumentId w.timeframe p.openedAt nowMs) hr hr' hts
  rw [← hrow, hc] at hc'
  exact Option.some.inj hc'

theorem submitted_eq_some_iff {kind : PaperExitReason} :
    (evaluatePosition env nowMs false p).submitted.map ExitRequest.kind = some kind ↔
      p.openedByOrderId.isSome ∧ w.LevelsPositive ∧
        ∃ r c, w.FirstTouch nowMs r c ∧ rank CandleRow.ts (w.path nowMs) r < 500 ∧
          exitReasonOf p.direction (.fin w.stopLoss.toRat) c = kind := by
  rw [w.evaluatePosition_kind]
  by_cases hlinked : p.openedByOrderId.isSome
  · rw [if_pos hlinked]
    by_cases hlevels : w.LevelsPositive
    · rw [w.detectionFor_reason hlevels, Option.map_eq_some_iff]
      simp only [env.candles.find?_candlesSince w.instrumentId w.timeframe p.openedAt nowMs
        (by decide : 0 < 500)]
      constructor
      · rintro ⟨c, ⟨r, hr, hc, hhit, hmin, hrank⟩, hk⟩
        exact ⟨hlinked, hlevels, r, c, ⟨hr, hc, hhit, hmin⟩, hrank, hk⟩
      · rintro ⟨-, -, r, c, ⟨hr, hc, hhit, hmin⟩, hrank, hk⟩
        exact ⟨c, ⟨r, hr, hc, hhit, hmin, hrank⟩, hk⟩
    · simp [w.detectionFor_eq_none hlevels, hlevels]
  · simp [hlinked]

end Watch

/-- **The sweep and the market path.**  For a position with both levels set and its instrument
    specified, the owner's sweep submits the exit the whole path calls for exactly when the path is
    quiet, or the sweep gets to the position, its opening order is still linked, its levels are
    prices and fewer than 500 stored candles precede the first one that touches a level. -/
theorem exit_submitted_as_required_iff (positions : List LoadedPosition)
    (hids : (positions.map fun q => q.id).Nodup) (nowMs : ℤ) {p : LoadedPosition}
    (hp : p ∈ positions) (w : Watch env p) :
    w.ExitRequired nowMs ((evaluateOpenPositions env positions p.userId nowMs).exitFor p.id) ↔
      w.Quiet nowMs ∨
        (Reaches env nowMs (loadOpenPositions positions p.userId) p ∧ p.openedByOrderId.isSome ∧
          w.LevelsPositive ∧ w.TouchOnPage nowMs) := by
  have hown : ∀ q ∈ loadOpenPositions positions p.userId, q.id = p.id → q = p := by
    intro q hq hid
    have hmem : q ∈ positions := (List.mem_filter.mp (mem_of_mem_page hq)).1
    exact List.inj_on_of_nodup_map hids hmem hp hid
  -- what the sweep submits for `p`, in terms of its path
  have hexit : ∀ kind, (evaluateOpenPositions env positions p.userId nowMs).exitFor p.id = some kind ↔
      Reaches env nowMs (loadOpenPositions positions p.userId) p ∧ p.openedByOrderId.isSome ∧
        w.LevelsPositive ∧ ∃ r c, w.FirstTouch nowMs r c ∧
          rank CandleRow.ts (w.path nowMs) r < 500 ∧
          exitReasonOf p.direction (.fin w.stopLoss.toRat) c = kind := by
    intro kind
    rw [evaluateOpenPositions, exitFor_eq_some_iff hown, w.submitted_eq_some_iff]
  constructor
  · intro hreq
    rcases w.quiet_or_firstTouch nowMs with hquiet | ⟨r, c, hfirst⟩
    · exact .inl hquiet
    · obtain ⟨hreach, hlinked, hlevels, r', c', hfirst', hrank, -⟩ :=
        (hexit _).mp (hreq.1 r c hfirst)
      exact .inr ⟨hreach, hlinked, hlevels, r', c', hfirst', hrank⟩
  · rintro (hquiet | ⟨hreach, hlinked, hlevels, r, c, hfirst, hrank⟩)
    · have hnone : ∀ r c, ¬ w.FirstTouch nowMs r c := by
        rintro r c ⟨hr, hc, hhit, -⟩
        rw [hquiet r hr c hc] at hhit
        cases hhit
      refine ⟨fun r c hfirst => absurd hfirst (hnone r c), fun _ => ?_⟩
      cases hsub : (evaluateOpenPositions env positions p.userId nowMs).exitFor p.id with
      | none => rfl
      | some kind =>
        obtain ⟨-, -, -, r, c, hfirst, -⟩ := (hexit kind).mp hsub
        exact absurd hfirst (hnone r c)
    · refine ⟨fun r' c' hfirst' => ?_, fun hquiet => ?_⟩
      · rw [hfirst'.unique w hfirst]
        exact (hexit _).mpr ⟨hreach, hlinked, hlevels, r, c, hfirst, hrank, rfl⟩
      · have hhit := hfirst.2.2.1
        rw [hquiet r hfirst.1 c hfirst.2.1] at hhit
        cases hhit

/-! ## A history one candle too long -/

/-- A minute candle at 1.1; number `touchAt` falls to 1. -/
def pathCandle (touchAt k : ℕ) : CandleRow :=
  ⟨"eurusd", .m1, 60000 * (k + 1), .fin (11 / 10), .fin (11 / 10),
    if k = touchAt then .fin 1 else .fin (11 / 10), .fin (11 / 10)⟩

/-- `n` minutes of candles, of which number `touchAt` falls to 1. -/
def pathStore (touchAt n : ℕ) : CandleStore where
  rows := (List.range n).map (pathCandle touchAt)
  pk := by
    rw [List.map_map]
    refine List.nodup_range.map fun a b h => ?_
    simpa [CandleRow.key, pathCandle] using h

open Numerals in
def pathEnv (touchAt n : ℕ) : SweepEnv where
  candles := pathStore touchAt n
  instrumentSpec := fun _ _ => some ⟨100000, .fin (1 / 10000), .quote_linear, .fin (1 / 100), .fin (1 / 100), 100⟩
  submitExitOrder := fun _ => .ok none

/-- A long opened at 1.1 with its stop at 1.05 and its target at 1.2. -/
def watchedLong : LoadedPosition where
  id := "position"
  userId := "user"
  executionProfileId := "profile"
  providerPositionId := some "paper-position"
  assetClass := "forex"
  symbol := "EURUSD"
  direction := .long
  quantity := ⟨10 ^ 10, by decide⟩
  averageEntryPrice := ⟨11 * 10 ^ 9, price_11_fits⟩
  stopLossPrice := some ⟨105 * 10 ^ 8, price_105_fits⟩
  takeProfitPrice := some ⟨12 * 10 ^ 9, price_12_fits⟩
  realizedPl := none
  status := .«open»
  openedAt := 30000
  closedAt := none
  setupId := some "setup"
  openedByOrderId := some "order"
  closedByOrderId := none
  exitPrice := none
  exitReason := none
  fees := 0
  slippage := 0
  simulated := true
  instrumentId := some "eurusd"
  openingDecision := none
  timeframe := some .m1

open Numerals in
def watchedLongWatch (touchAt n : ℕ) : Watch (pathEnv touchAt n) watchedLong where
  stopLoss := ⟨105 * 10 ^ 8, price_105_fits⟩
  takeProfit := ⟨12 * 10 ^ 9, price_12_fits⟩
  instrumentId := "eurusd"
  timeframe := .m1
  spec := ⟨100000, .fin (1 / 10000), .quote_linear, .fin (1 / 100), .fin (1 / 100), 100⟩
  stopLossPrice_eq := rfl
  takeProfitPrice_eq := rfl
  instrumentId_eq := rfl
  timeframe_eq := rfl
  instrumentSpec_eq := rfl

/-- The stop is touched by the 501st candle after the opening and the sweep submits nothing. -/
theorem stop_touched_after_500_candles_is_missed :
    ¬ (watchedLongWatch 500 501).ExitRequired 40000000
      ((evaluateOpenPositions (pathEnv 500 501) [watchedLong] "user" 40000000).exitFor "position") := by
  intro hreq
  have htouch : ((pathEnv 500 501).candles.candlesSince "eurusd" .m1 30000 40000000 501).find?
      (watchedLongWatch 500 501).hit =
        some ⟨30060000, .fin (11 / 10), .fin (11 / 10), .fin 1, .fin (11 / 10)⟩ := by
    decide +kernel
  obtain ⟨r, hr, hc, hhit, hmin, -⟩ :=
    (CandleStore.find?_candlesSince _ _ _ _ _ (by decide) _ _).mp htouch
  have hstop := hreq.1 r _ ⟨hr, hc, hhit, hmin⟩
  have hnone : (evaluateOpenPositions (pathEnv 500 501) [watchedLong] "user" 40000000).exitFor
      "position" = none := by
    decide +kernel
  rw [hnone] at hstop
  cases hstop

/-- Two candles after the opening the same touch is found. -/
theorem stop_touched_by_second_candle_is_submitted :
    (watchedLongWatch 1 3).ExitRequired 200000
      ((evaluateOpenPositions (pathEnv 1 3) [watchedLong] watchedLong.userId 200000).exitFor
        watchedLong.id) := by
  refine (exit_submitted_as_required_iff [watchedLong] (by decide) 200000 (by simp)
    (watchedLongWatch 1 3)).mpr (.inr ⟨⟨[], [], rfl, by simp⟩, rfl,
    ⟨by decide +kernel, by decide +kernel⟩, ?_⟩)
  have htouch : ((pathEnv 1 3).candles.candlesSince "eurusd" .m1 30000 200000 500).find?
      (watchedLongWatch 1 3).hit =
        some ⟨120000, .fin (11 / 10), .fin (11 / 10), .fin 1, .fin (11 / 10)⟩ := by
    decide +kernel
  obtain ⟨r, hr, hc, hhit, hmin, hrank⟩ :=
    (CandleStore.find?_candlesSince _ _ _ _ _ (by decide) _ _).mp htouch
  exact ⟨r, _, ⟨hr, hc, hhit, hmin⟩, hrank⟩

end VeltrixEye
