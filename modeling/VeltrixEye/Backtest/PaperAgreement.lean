import VeltrixEye.Backtest.Engine

/-!
# The paper simulator and the backtest exit alike (`execution/paper-engine.ts`, `backtest/engine.ts`)

`detectExit` skips candles it cannot use and counts; the scan of `simulateTrade` counts the candles held and
breaks at the end of the range.

* `detectLoop_cases`, `run_cases` — each loop stops at the first candle that touches a level.
-/

namespace VeltrixEye

/-- A stored candle as the paper simulator reads it. -/
def paperCandle (c : CandleDto) : PaperCandle := ⟨c.time, c.open, c.high, c.low, c.close⟩

def BacktestExitReason.isTakeProfit : BacktestExitReason → Bool
  | take_profit_1 | take_profit_2 | take_profit_3 => true
  | _ => false

/-- The candle touches the stop or the target of a trade. -/
def touchesLevel (direction : Direction) (stop target : JsNumber) (c : CandleDto) : Bool :=
  isStopTouched direction c stop || isTargetTouched direction c target

theorem slHit_paperCandle (direction : Direction) (stop : JsNumber) (c : CandleDto) :
    slHit direction stop (paperCandle c) = isStopTouched direction c stop := by
  cases direction <;> rfl

theorem tpHit_paperCandle (direction : Direction) (target : JsNumber) (c : CandleDto) :
    tpHit direction target (paperCandle c) = isTargetTouched direction c target := by
  cases direction <;> rfl

/-- What the paper simulator reports of the candle it stops at, `before` candles into the list. -/
def paperExit (direction : Direction) (stop target : JsNumber) (before : ℕ) (c : CandleDto) : ExitDetection :=
  if isStopTouched direction c stop then
    ⟨.stop_loss, stop, c.time, isTargetTouched direction c target, before + 1, 0⟩
  else ⟨.take_profit, target, c.time, false, before + 1, 0⟩

/-- What the backtest records of the candle it stops at. -/
def backtestExit (direction : Direction) (stop target : JsNumber) (reason : BacktestExitReason)
    (setupPeriodMs : ℤ) (c : CandleDto) : TradeExit :=
  if isStopTouched direction c stop then ⟨.stop_loss, stop, c.time + setupPeriodMs⟩
  else ⟨reason, target, c.time + setupPeriodMs⟩

section
variable {direction : Direction} {stop target : JsNumber}

theorem detectLoop_cases {candles : List CandleDto} (evaluated : ℕ)
    (husable : ∀ c ∈ candles, isUsableCandle (paperCandle c) = true) :
    ((∀ c ∈ candles, touchesLevel direction stop target c = false) ∧
      detectLoop direction stop target evaluated 0 (candles.map paperCandle) = none) ∨
    ∃ before c after, candles = before ++ c :: after ∧
      (∀ x ∈ before, touchesLevel direction stop target x = false) ∧
      touchesLevel direction stop target c = true ∧
      detectLoop direction stop target evaluated 0 (candles.map paperCandle) =
        some (paperExit direction stop target (evaluated + before.length) c) := by
  induction candles generalizing evaluated with
  | nil => exact .inl ⟨fun _ h => absurd h List.not_mem_nil, rfl⟩
  | cons c cs ih =>
    have hc := husable c List.mem_cons_self
    rw [List.map_cons]
    simp only [detectLoop, hc, Bool.not_true, Bool.false_eq_true, if_false, slHit_paperCandle,
      tpHit_paperCandle]
    cases htouch : touchesLevel direction stop target c with
    | true =>
      refine .inr ⟨[], c, cs, rfl, fun _ h => absurd h List.not_mem_nil, htouch, ?_⟩
      unfold touchesLevel at htouch
      unfold paperExit
      cases hs : isStopTouched direction c stop with
      | true => cases ht : isTargetTouched direction c target <;> rfl
      | false =>
        rw [hs, Bool.false_or] at htouch
        rw [htouch]
        rfl
    | false =>
      obtain ⟨hs, ht⟩ := Bool.or_eq_false_iff.mp htouch
      rw [hs, ht]
      rcases ih (evaluated + 1) (fun x hx => husable x (List.mem_cons_of_mem _ hx)) with
        ⟨hnone, hloop⟩ | ⟨before, x, after, rfl, hbefore, hx, hloop⟩
      · exact .inl ⟨List.forall_mem_cons.mpr ⟨htouch, hnone⟩, hloop⟩
      · refine .inr ⟨c :: before, x, after, rfl, List.forall_mem_cons.mpr ⟨htouch, hbefore⟩, hx, ?_⟩
        rw [List.length_cons, Nat.add_comm before.length, ← Nat.add_assoc]
        exact hloop

theorem run_cases {candles : List CandleDto} {scan : ExitScan} {reason : BacktestExitReason} {held : ℕ}
    {last : TradeExit} (hdirection : scan.direction = direction) (hstop : scan.stop = stop)
    (htarget : scan.target = some (target, reason)) (hlevel : scan.exitPolicy.stopLoss = .level)
    (hhold : held + candles.length < scan.exitPolicy.maxHoldCandles)
    (hclose : ∀ c ∈ candles, c.time + scan.setupPeriodMs ≤ scan.toMs) (hlast : last.reason = .range_end) :
    ((∀ c ∈ candles, touchesLevel direction stop target c = false) ∧
      (scan.run candles held last).reason = .range_end) ∨
    ∃ before c after, candles = before ++ c :: after ∧
      (∀ x ∈ before, touchesLevel direction stop target x = false) ∧
      touchesLevel direction stop target c = true ∧
      scan.run candles held last = backtestExit direction stop target reason scan.setupPeriodMs c := by
  subst hdirection hstop
  induction candles generalizing held last with
  | nil => exact .inl ⟨fun _ h => absurd h List.not_mem_nil, hlast⟩
  | cons c cs ih =>
    have hc := hclose c List.mem_cons_self
    rw [List.length_cons] at hhold
    rw [ExitScan.run, if_neg (not_lt.mpr hc)]
    cases htouch : touchesLevel scan.direction scan.stop target c with
    | true =>
      refine .inr ⟨[], c, cs, rfl, fun _ h => absurd h List.not_mem_nil, htouch, ?_⟩
      have hexit : scan.exitAt held c =
          some (backtestExit scan.direction scan.stop target reason scan.setupPeriodMs c) := by
        unfold touchesLevel at htouch
        unfold ExitScan.exitAt backtestExit
        cases hs : isStopTouched scan.direction c scan.stop with
        | true => simp only [hlevel, and_self, if_true]
        | false =>
          rw [hs, Bool.false_or] at htouch
          simp only [Bool.false_eq_true, and_false, if_false, htarget, Option.filter_some, htouch, if_true]
      rw [hexit]
    | false =>
      obtain ⟨hs, ht⟩ := Bool.or_eq_false_iff.mp htouch
      have hexit : scan.exitAt held c = none := by
        unfold ExitScan.exitAt
        have hheld : held + 1 ≠ scan.exitPolicy.maxHoldCandles := by omega
        simp only [hs, Bool.false_eq_true, and_false, if_false, htarget, Option.filter_some, ht, hheld]
      rw [hexit]
      have hrest := @ih (held + 1) ⟨.range_end, c.close, c.time + scan.setupPeriodMs⟩ (by omega)
        (fun x hx => hclose x (List.mem_cons_of_mem _ hx)) rfl
      rcases hrest with ⟨hnone, hrun⟩ | ⟨before, x, after, rfl, hbefore, hx, hrun⟩
      · exact .inl ⟨List.forall_mem_cons.mpr ⟨htouch, hnone⟩, hrun⟩
      · exact .inr ⟨c :: before, x, after, rfl, List.forall_mem_cons.mpr ⟨htouch, hbefore⟩, hx, hrun⟩

end

/-- Two runs over the candles agree: neither touches a level, or both stop at the first candle that touches
    one, at the stop if it touches both. -/
def SameExit (direction : Direction) (stop target : JsNumber) (reason : BacktestExitReason)
    (setupPeriodMs : ℤ) (candles : List CandleDto) (detected : Option ExitDetection) (exit : TradeExit) :
    Prop :=
  (detected = none ↔ exit.reason = .range_end) ∧
  ((detected = none ∧ exit.reason = .range_end ∧
      ∀ c ∈ candles, touchesLevel direction stop target c = false) ∨
    ∃ before c after, candles = before ++ c :: after ∧
      (∀ x ∈ before, touchesLevel direction stop target x = false) ∧
      touchesLevel direction stop target c = true ∧
      detected = some (paperExit direction stop target before.length c) ∧
      exit = backtestExit direction stop target reason setupPeriodMs c)

theorem backtestExit_reason_ne {direction : Direction} {stop target : JsNumber} {reason : BacktestExitReason}
    {setupPeriodMs : ℤ} {c : CandleDto} (h : reason.isTakeProfit = true) :
    (backtestExit direction stop target reason setupPeriodMs c).reason ≠ .range_end := by
  unfold backtestExit
  split
  · simp
  · cases reason <;> simp_all [BacktestExitReason.isTakeProfit]

theorem first_split_unique {α : Type} {p : α → Bool} {before before' after after' : List α} {c c' : α}
    (h : before ++ c :: after = before' ++ c' :: after') (hb : ∀ x ∈ before, p x = false)
    (hb' : ∀ x ∈ before', p x = false) (hc : p c = true) (hc' : p c' = true) :
    before = before' ∧ c = c' := by
  induction before generalizing before' with
  | nil =>
    cases before' with
    | nil =>
      cases h
      exact ⟨rfl, rfl⟩
    | cons x xs =>
      cases h
      rw [hb' c List.mem_cons_self] at hc
      cases hc
  | cons y ys ih =>
    cases before' with
    | nil =>
      cases h
      rw [hb c' List.mem_cons_self] at hc'
      cases hc'
    | cons x xs =>
      rw [List.cons_append, List.cons_append, List.cons.injEq] at h
      obtain ⟨rfl, h⟩ := h
      obtain ⟨rfl, rfl⟩ := ih h (fun z hz => hb z (List.mem_cons_of_mem _ hz))
        fun z hz => hb' z (List.mem_cons_of_mem _ hz)
      exact ⟨rfl, rfl⟩

theorem scan_agrees {scan : ExitScan} {target : JsNumber} {reason : BacktestExitReason}
    {candles : List CandleDto} {last : TradeExit} (hstop : JsNumber.lt 0 scan.stop = true)
    (htarget : JsNumber.lt 0 target = true) (hselected : scan.target = some (target, reason))
    (hreason : reason.isTakeProfit = true) (hlevel : scan.exitPolicy.stopLoss = .level)
    (husable : ∀ c ∈ candles, isUsableCandle (paperCandle c) = true)
    (hlen : candles.length ≤ PAPER_MAX_EVALUATION_CANDLES)
    (hhold : candles.length < scan.exitPolicy.maxHoldCandles)
    (hclose : ∀ c ∈ candles, c.time + scan.setupPeriodMs ≤ scan.toMs) (hlast : last.reason = .range_end) :
    SameExit scan.direction scan.stop target reason scan.setupPeriodMs candles
      (detectExit scan.direction scan.stop target (candles.map paperCandle)) (scan.run candles 0 last) := by
  have hdetect : detectExit scan.direction scan.stop target (candles.map paperCandle) =
      detectLoop scan.direction scan.stop target 0 0 (candles.map paperCandle) := by
    unfold detectExit
    have htake : (candles.map paperCandle).take PAPER_MAX_EVALUATION_CANDLES = candles.map paperCandle :=
      List.take_of_length_le (by rw [List.length_map]; exact hlen)
    simp only [hstop, htarget, Bool.not_true, Bool.or_self, Bool.false_eq_true, if_false, Option.getD_none,
      min_self, htake]
  rw [hdetect]
  have hrun := @run_cases _ _ target candles scan reason 0 last rfl rfl hselected hlevel (by omega) hclose hlast
  have hloop := @detectLoop_cases scan.direction scan.stop target candles 0 husable
  rcases hloop with ⟨hnone, hloop⟩ | ⟨before, c, after, hsplit, hbefore, hc, hloop⟩
  · rcases hrun with ⟨-, hrun⟩ | ⟨before, c, after, hsplit, -, hc, -⟩
    · exact ⟨iff_of_true hloop hrun, .inl ⟨hloop, hrun, hnone⟩⟩
    · have := hnone c (hsplit ▸ List.mem_append_right _ List.mem_cons_self)
      rw [hc] at this
      cases this
  · rcases hrun with ⟨hnone, -⟩ | ⟨before', c', after', hsplit', hbefore', hc', hrun⟩
    · have := hnone c (hsplit ▸ List.mem_append_right _ List.mem_cons_self)
      rw [hc] at this
      cases this
    · obtain ⟨rfl, rfl⟩ := first_split_unique (hsplit.symm.trans hsplit') hbefore hbefore' hc hc'
      rw [Nat.zero_add] at hloop
      refine ⟨?_, .inr ⟨before, c, after, hsplit, hbefore, hc, hloop, hrun⟩⟩
      rw [hloop, hrun]
      simp [backtestExit_reason_ne hreason]

theorem selectTarget_isTakeProfit {policy : BacktestExitPolicy} {levels : DetectionLevels}
    {method : TakeProfitMethod} {target : JsNumber} {reason : BacktestExitReason}
    (h : selectTarget policy levels method = some (target, reason)) : reason.isTakeProfit = true := by
  unfold selectTarget at h
  split at h
  · obtain ⟨_, -, h⟩ := Option.map_eq_some_iff.mp h
    cases h
    rfl
  · obtain ⟨_, -, h⟩ := Option.map_eq_some_iff.mp h
    cases h
    rfl
  · split at h
    · cases h
      rfl
    · split at h
      · obtain ⟨_, -, h⟩ := Option.map_eq_some_iff.mp h
        cases h
        rfl
      · cases h
  · cases h

theorem simulateTrade_exit {t : TradeSimulationInput} {levels : DetectionLevels} {stop : JsNumber}
    (hlevels : detectionLevels t.candidate t.direction = some levels)
    (hstop : levels.stopLossPrice = some stop)
    (hrisk : JsNumber.lt 0 (JsNumber.abs (JsNumber.sub levels.entryPrice stop)) = true) :
    let exit := ExitScan.run
      ⟨t.direction, stop, selectTarget t.exitPolicy levels t.takeProfitMethod, t.exitPolicy, t.setupPeriodMs,
        t.toMs⟩ (t.setup.drop t.setupEnd) 0 ⟨.range_end, levels.entryPrice, t.anchor⟩
    (simulateTrade t).exitReason = exit.reason ∧ (simulateTrade t).exitPrice = some exit.price ∧
      (simulateTrade t).exitAsOfMs = some exit.asOfMs := by
  intro exit
  unfold simulateTrade
  simp only [hlevels, hstop, hrisk, Bool.not_true, Bool.false_eq_true, if_false]
  exact ⟨rfl, rfl, rfl⟩

/-- **The paper simulator and the backtest exit alike**: for every stop and target of a scan, and so for
    every trade with one target. -/
theorem detectExit_agrees :
    (∀ (scan : ExitScan) (target : JsNumber) (reason : BacktestExitReason) (candles : List CandleDto)
      (last : TradeExit), JsNumber.lt 0 scan.stop = true → JsNumber.lt 0 target = true →
      scan.target = some (target, reason) → reason.isTakeProfit = true →
      scan.exitPolicy.stopLoss = .level → (∀ c ∈ candles, isUsableCandle (paperCandle c) = true) →
      candles.length ≤ PAPER_MAX_EVALUATION_CANDLES → candles.length < scan.exitPolicy.maxHoldCandles →
      (∀ c ∈ candles, c.time + scan.setupPeriodMs ≤ scan.toMs) → last.reason = .range_end →
      SameExit scan.direction scan.stop target reason scan.setupPeriodMs candles
        (detectExit scan.direction scan.stop target (candles.map paperCandle)) (scan.run candles 0 last)) ∧
    ∀ (t : TradeSimulationInput) (levels : DetectionLevels) (stop target : JsNumber)
      (reason : BacktestExitReason), detectionLevels t.candidate t.direction = some levels →
      levels.stopLossPrice = some stop → JsNumber.lt 0 stop = true → JsNumber.lt 0 target = true →
      JsNumber.lt 0 (JsNumber.abs (JsNumber.sub levels.entryPrice stop)) = true →
      selectTarget t.exitPolicy levels t.takeProfitMethod = some (target, reason) →
      t.exitPolicy.stopLoss = .level →
      (∀ c ∈ t.setup.drop t.setupEnd, isUsableCandle (paperCandle c) = true) →
      (t.setup.drop t.setupEnd).length ≤ PAPER_MAX_EVALUATION_CANDLES →
      (t.setup.drop t.setupEnd).length < t.exitPolicy.maxHoldCandles →
      (∀ c ∈ t.setup.drop t.setupEnd, c.time + t.setupPeriodMs ≤ t.toMs) →
      ∃ exit : TradeExit, (simulateTrade t).exitReason = exit.reason ∧
        (simulateTrade t).exitPrice = some exit.price ∧ (simulateTrade t).exitAsOfMs = some exit.asOfMs ∧
        SameExit t.direction stop target reason t.setupPeriodMs (t.setup.drop t.setupEnd)
          (detectExit t.direction stop target ((t.setup.drop t.setupEnd).map paperCandle)) exit := by
  constructor
  · intro scan target reason candles last hstop htarget hselected hreason hlevel husable hlen hhold hclose hlast
    exact scan_agrees hstop htarget hselected hreason hlevel husable hlen hhold hclose hlast
  · intro t levels stop target reason hlevels hstop hpos htarget hrisk hselected hlevel husable hlen hhold
      hclose
    obtain ⟨hreason, hprice, hasOf⟩ := simulateTrade_exit hlevels hstop hrisk
    refine ⟨_, hreason, hprice, hasOf, ?_⟩
    exact @scan_agrees
      ⟨t.direction, stop, selectTarget t.exitPolicy levels t.takeProfitMethod, t.exitPolicy, t.setupPeriodMs,
        t.toMs⟩ target reason (t.setup.drop t.setupEnd) ⟨.range_end, levels.entryPrice, t.anchor⟩ hpos htarget
      hselected (selectTarget_isTakeProfit hselected) hlevel husable hlen hhold hclose rfl

/-- A long position at 100 with stop 95 and target 110: the second candle reaches both, and both take the
    stop. -/
theorem detectExit_agrees_sample :
    let candles : List CandleDto := [⟨1000, 100, 104, 98, 101, none⟩, ⟨2000, 101, 112, 94, 103, none⟩]
    SameExit .long 95 110 .take_profit_1 1000 candles (detectExit .long 95 110 (candles.map paperCandle))
      (ExitScan.run ⟨.long, 95, some (110, .take_profit_1), ⟨.level, .tp1, 10⟩, 1000, 4000⟩ candles 0
        ⟨.range_end, 100, 1000⟩) := by
  intro candles
  exact detectExit_agrees.1 ⟨.long, 95, some (110, .take_profit_1), ⟨.level, .tp1, 10⟩, 1000, 4000⟩ 110
    .take_profit_1 candles ⟨.range_end, 100, 1000⟩ (by decide) (by decide) rfl rfl rfl
    (by decide) (by decide) (by decide) (by decide) rfl

end VeltrixEye
