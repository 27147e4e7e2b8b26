import VeltrixEye.Backtest.Coverage

/-!
# The row caps of a replay (`backtest/engine.ts`, `backtest/service.ts`)

`loadCandles` reads each role ascending from a window and keeps the first `limit` rows.
-/

namespace VeltrixEye

/-! ## The candles of a run, with and without the caps -/

/-- The stored candles of a window, without its row limit. -/
def CandleSeries.window (s : CandleSeries) (w : BacktestRoleWindow) : List CandleDto :=
  s.candles.filter fun c => w.from ≤ c.time ∧ c.time < w.to

/-- The candles of one run, read by `load`; the roles that are read are given. -/
def readCandles (load : CandleSeries → BacktestRoleWindow → List CandleDto) (reads : TimeframeRole → Bool)
    (store : MarketStore) (config : VersionConfig) (timeframes : StrategyTimeframes) (instrument : Instrument)
    (fromMs toMs : ℤ) (maxHoldCandles : ℕ) : CandleSet :=
  let setupWindow := setupCoverageWindow config timeframes fromMs toMs maxHoldCandles
  let setup := store.series instrument timeframes.setup
  -- the horizon is always that of the capped setup series
  let horizonMs := anchorHorizonMs (setup.load setupWindow) (timeframes.periodMs .setup) fromMs toMs
  let role (role : TimeframeRole) : List CandleDto :=
    if reads role then
      load (store.series instrument (timeframes.of role))
        (roleCoverageWindow config timeframes role fromMs horizonMs)
    else []
  ⟨role .htf_bias, load setup setupWindow, role .entry⟩

/-! ## Candles one period apart -/

/-- Candles open at least one period apart. -/
def Spaced (periodMs : ℤ) (candles : List CandleDto) : Prop :=
  candles.Pairwise fun a b => a.time + periodMs ≤ b.time

theorem spaced_length {periodMs A B : ℤ} {candles : List CandleDto}
    (hspaced : Spaced periodMs candles) (hA : ∀ c ∈ candles, A ≤ c.time) (hB : ∀ c ∈ candles, c.time < B)
    (hAB : A < B + periodMs) : (candles.length : ℤ) * periodMs < B - A + periodMs := by
  induction candles generalizing A with
  | nil =>
    simp only [List.length_nil, Nat.cast_zero, zero_mul]
    linarith
  | cons c cs ih =>
    obtain ⟨hhead, htail⟩ := List.pairwise_cons.mp hspaced
    have hc := hA c List.mem_cons_self
    have hcB := hB c List.mem_cons_self
    have hrest := ih htail hhead (fun d hd => hB d (List.mem_cons_of_mem _ hd)) (by linarith)
    rw [List.length_cons]
    push_cast
    linarith

theorem mem_window {s : CandleSeries} {w : BacktestRoleWindow} {c : CandleDto} (h : c ∈ s.window w) :
    w.from ≤ c.time ∧ c.time < w.to := by
  simpa using (List.mem_filter.mp h).2

theorem window_spaced {periodMs : ℤ} {s : CandleSeries} (h : Spaced periodMs s.candles)
    (w : BacktestRoleWindow) : Spaced periodMs (s.window w) :=
  h.sublist List.filter_sublist

theorem load_eq_take (s : CandleSeries) (w : BacktestRoleWindow) : s.load w = (s.window w).take w.limit := rfl

theorem anchorHorizonMs_ge (setup : List CandleDto) (setupPeriodMs fromMs toMs : ℤ) :
    fromMs ≤ anchorHorizonMs setup setupPeriodMs fromMs toMs := by
  unfold anchorHorizonMs
  cases h : ((anchorsInRange (prepareSeries setup) setupPeriodMs fromMs toMs).take
      MAX_BACKTEST_STEPS).getLast? with
  | none => exact le_rfl
  | some a =>
    have ha := List.mem_of_mem_take (List.mem_of_getLast? h)
    unfold anchorsInRange at ha
    have := (List.mem_filter.mp ha).2
    rw [decide_eq_true_eq] at this
    exact this.1

/-- **The cap of a bias or entry window cuts nothing.** -/
theorem load_role {s : CandleSeries} {config : VersionConfig} {timeframes : StrategyTimeframes}
    {role : TimeframeRole} {fromMs horizonMs : ℤ} (hfrom : 0 ≤ fromMs) (hhorizon : fromMs ≤ horizonMs)
    (h : Spaced (timeframes.periodMs role) s.candles) :
    s.load (roleCoverageWindow config timeframes role fromMs horizonMs) =
      s.window (roleCoverageWindow config timeframes role fromMs horizonMs) := by
  have hperiod := timeframes.periodMs_pos role
  set periodMs := timeframes.periodMs role with hp
  set w := roleCoverageWindow config timeframes role fromMs horizonMs with hw
  rw [load_eq_take]
  refine List.take_of_length_le ?_
  have hlow : w.from ≤ fromMs := by
    have : 0 ≤ ((requiredWindows config role : ℤ) + 1) * periodMs := by positivity
    exact max_le hfrom (by linarith)
  have hto : w.to = horizonMs + periodMs := rfl
  have hcount := spaced_length (window_spaced h w) (fun c hc => (mem_window hc).1)
    (fun c hc => (mem_window hc).2) (by linarith)
  have hceil : ((s.window w).length : ℤ) ≤ ⌈((w.to - w.from : ℤ) : ℚ) / periodMs⌉ := by
    have hpq : (0 : ℚ) < periodMs := by exact_mod_cast hperiod
    have hlt : (((s.window w).length : ℤ) - 1 : ℤ) < ⌈((w.to - w.from : ℤ) : ℚ) / periodMs⌉ := by
      rw [Int.lt_ceil, lt_div_iff₀ hpq]
      have : (((s.window w).length : ℤ) - 1) * periodMs < w.to - w.from := by linarith
      exact_mod_cast this
    omega
  have hlimit : w.limit =
      requiredWindows config role + 1 + ⌈((w.to - w.from : ℤ) : ℚ) / periodMs⌉.toNat + 1 := rfl
  omega

/-! ## The cap of the setup window -/

theorem takeWhile_take_length {α : Type} (p : α → Bool) (l : List α) (m : ℕ) :
    ((l.take m).takeWhile p).length = min m (l.takeWhile p).length := by
  induction l generalizing m with
  | nil => simp
  | cons a l ih =>
    cases m with
    | zero => simp
    | succ m =>
      rw [List.take_succ_cons]
      cases hp : p a with
      | false =>
        rw [List.takeWhile_cons_of_neg (by simp [hp]), List.takeWhile_cons_of_neg (by simp [hp])]
        rfl
      | true =>
        rw [List.takeWhile_cons_of_pos hp, List.takeWhile_cons_of_pos hp, List.length_cons, List.length_cons,
          ih, Nat.succ_min_succ]

theorem closedCount_take (candles : List CandleDto) (periodMs anchor : ℤ) (m : ℕ) :
    closedCount (candles.take m) periodMs anchor = min m (closedCount candles periodMs anchor) :=
  takeWhile_take_length _ _ _

theorem filter_le_length {A : List ℤ} (h : A.Pairwise (· < ·)) {n : ℕ} {a : ℤ} (ha : a ∈ A.take n) :
    (A.filter fun b => b ≤ a).length ≤ n := by
  have hsplit := List.take_append_drop n A
  rw [← hsplit] at h
  have hlate := (List.pairwise_append.mp h).2.2 a ha
  have hnone : (A.drop n).filter (fun b => decide (b ≤ a)) = [] := by
    refine List.filter_eq_nil_iff.mpr fun b hb => ?_
    rw [decide_eq_true_eq, not_le]
    exact hlate b hb
  calc (A.filter fun b => b ≤ a).length
      = ((A.take n ++ A.drop n).filter fun b => b ≤ a).length := by rw [hsplit]
    _ = ((A.take n).filter fun b => b ≤ a).length := by rw [List.filter_append, hnone, List.append_nil]
    _ ≤ (A.take n).length := List.length_filter_le _ _
    _ ≤ n := by simp

/-- What a row limit keeps of a setup series: the anchors that are evaluated, and from each of them a full
    hold. -/
structure SetupCap (full : List CandleDto) (limit : ℕ) (periodMs fromMs toMs : ℤ) (maxHoldCandles : ℕ) :
    Prop where
  anchors : (anchorsInRange (full.take limit) periodMs fromMs toMs).take MAX_BACKTEST_STEPS =
    (anchorsInRange full periodMs fromMs toMs).take MAX_BACKTEST_STEPS
  hold : ∀ a ∈ (anchorsInRange full periodMs fromMs toMs).take MAX_BACKTEST_STEPS,
    full.length ≤ limit ∨ closedCount full periodMs a + maxHoldCandles ≤ limit

section Setup

variable {full : List CandleDto} {periodMs fromMs toMs : ℤ} {warmup maxHoldCandles limit : ℕ}

theorem spaced_ascending (hperiod : 0 < periodMs) (h : Spaced periodMs full) :
    full.Pairwise fun a b => a.time < b.time :=
  h.imp fun hab => by linarith

theorem warmup_length (hperiod : 0 < periodMs) (hspaced : Spaced periodMs full)
    (hlow : ∀ c ∈ full, fromMs - (warmup + 1) * periodMs ≤ c.time) :
    (full.filter fun c => c.time + periodMs < fromMs).length ≤ warmup := by
  have hcount := @spaced_length periodMs (fromMs - (warmup + 1) * periodMs) (fromMs - periodMs)
    (full.filter fun c => c.time + periodMs < fromMs) (hspaced.sublist List.filter_sublist)
    (fun c hc => hlow c (List.mem_of_mem_filter hc))
    (fun c hc => by
      have := (List.mem_filter.mp hc).2
      rw [decide_eq_true_eq] at this
      linarith)
    (by nlinarith)
  have hlt : ((full.filter fun c => c.time + periodMs < fromMs).length : ℤ) * periodMs <
      (warmup + 1) * periodMs := by linarith
  have := lt_of_mul_lt_mul_right hlt hperiod.le
  omega

theorem closedCount_anchor (hsorted : full.Pairwise fun a b => a.time < b.time) {a : ℤ} (hfrom : fromMs ≤ a)
    (hto : a < toMs) :
    closedCount full periodMs a = (full.filter fun c => c.time + periodMs < fromMs).length +
      ((anchorsInRange full periodMs fromMs toMs).filter fun b => b ≤ a).length := by
  have hanchors : ((anchorsInRange full periodMs fromMs toMs).filter fun b => b ≤ a).length =
      (full.filter fun c => fromMs ≤ c.time + periodMs ∧ c.time + periodMs ≤ a).length := by
    unfold anchorsInRange
    rw [List.filter_filter, List.filter_map, List.length_map]
    congr 1
    refine List.filter_congr fun c _ => ?_
    rw [Bool.eq_iff_iff]
    simp only [Function.comp_apply, Bool.and_eq_true, decide_eq_true_eq]
    constructor
    · rintro ⟨hle, hge, -⟩
      exact ⟨hge, hle⟩
    · rintro ⟨hge, hle⟩
      exact ⟨hle, hge, hle.trans_lt hto⟩
  rw [hanchors]
  unfold closedCount
  rw [takeWhile_closed_eq hsorted]
  clear hanchors hsorted
  induction full with
  | nil => rfl
  | cons c cs ih =>
    simp only [List.filter_cons]
    by_cases hbefore : c.time + periodMs < fromMs
    · simp [hbefore, (hbefore.trans_le hfrom).le, not_le.mpr hbefore, ih]
      omega
    · by_cases hle : c.time + periodMs ≤ a
      · simp [hbefore, hle, not_lt.mp hbefore, ih]
        omega
      · simp [hbefore, hle, ih]

theorem setupCap (hperiod : 0 < periodMs) (hspaced : Spaced periodMs full)
    (hlow : ∀ c ∈ full, fromMs - (warmup + 1) * periodMs ≤ c.time) (hhigh : ∀ c ∈ full, c.time < toMs)
    (hlimit : limit = warmup + 1 + MAX_BACKTEST_STEPS + maxHoldCandles + 2) :
    SetupCap full limit periodMs fromMs toMs maxHoldCandles := by
  have hsorted := spaced_ascending hperiod hspaced
  have hwarm := warmup_length hperiod hspaced hlow
  have hsplit := List.take_append_drop limit full
  constructor
  · by_cases hshort : full.length ≤ limit
    · rw [List.take_of_length_le hshort]
    · -- the kept candles all close before the end of the range, so enough of them are anchors
      have hlength : (full.take limit).length = limit := List.length_take_of_le (not_le.mp hshort).le
      have hclose : ∀ c ∈ full.take limit, c.time + periodMs < toMs := by
        intro c hc
        obtain ⟨r, hr⟩ := List.exists_mem_of_length_pos (l := full.drop limit) (by
          rw [List.length_drop]
          omega)
        have hspaced' := hspaced
        rw [Spaced, ← hsplit] at hspaced'
        have := (List.pairwise_append.mp hspaced').2.2 c hc r hr
        have := hhigh r (List.mem_of_mem_drop hr)
        linarith
      have hwarm' : ((full.take limit).filter fun c => c.time + periodMs < fromMs).length ≤ warmup :=
        ((List.take_sublist limit full).filter _).length_le.trans hwarm
      have hanchors : (anchorsInRange (full.take limit) periodMs fromMs toMs).length =
          ((full.take limit).filter fun c => !decide (c.time + periodMs < fromMs)).length := by
        unfold anchorsInRange
        rw [List.filter_map, List.length_map]
        congr 1
        refine List.filter_congr fun c hc => ?_
        rw [Bool.eq_iff_iff]
        simp only [Function.comp_apply, decide_eq_true_eq, Bool.not_eq_true', decide_eq_false_iff_not, not_lt]
        exact ⟨fun h => h.1, fun h => ⟨h, hclose c hc⟩⟩
      have hcount := List.length_eq_length_filter_add (l := full.take limit)
        fun c => decide (c.time + periodMs < fromMs)
      have henough : MAX_BACKTEST_STEPS ≤ (anchorsInRange (full.take limit) periodMs fromMs toMs).length := by
        omega
      have happend : anchorsInRange full periodMs fromMs toMs =
          anchorsInRange (full.take limit) periodMs fromMs toMs ++
            anchorsInRange (full.drop limit) periodMs fromMs toMs := by
        unfold anchorsInRange
        rw [← List.filter_append, ← List.map_append, hsplit]
      rw [happend, List.take_append_of_le_length henough]
  · intro a ha
    refine .inr ?_
    have hrange := List.mem_of_mem_take ha
    unfold anchorsInRange at hrange
    have hrange := (List.mem_filter.mp hrange).2
    rw [decide_eq_true_eq] at hrange
    have hascending : (anchorsInRange full periodMs fromMs toMs).Pairwise (· < ·) :=
      (List.pairwise_map.mpr (hsorted.imp fun hab => by omega)).filter _
    have hupto := filter_le_length hascending ha
    rw [closedCount_anchor hsorted hrange.1 hrange.2]
    omega

end Setup

/-! ## The run -/

theorem ExitScan.held_of_exitAt_none {scan : ExitScan} {held : ℕ} {c : CandleDto}
    (h : scan.exitAt held c = none) : held + 1 ≠ scan.exitPolicy.maxHoldCandles := by
  intro heq
  unfold ExitScan.exitAt at h
  simp only [heq, if_true] at h
  split at h
  · cases h
  split at h
  · cases h
  · cases h

theorem ExitScan.run_take (scan : ExitScan) (candles : List CandleDto) {m held : ℕ} {last : TradeExit}
    (hheld : held < scan.exitPolicy.maxHoldCandles) (hm : scan.exitPolicy.maxHoldCandles ≤ held + m) :
    scan.run (candles.take m) held last = scan.run candles held last := by
  induction candles generalizing m held last with
  | nil => rw [List.take_nil]
  | cons c cs ih =>
    obtain ⟨m, rfl⟩ : ∃ k, m = k + 1 := ⟨m - 1, by omega⟩
    rw [List.take_succ_cons]
    unfold ExitScan.run
    split
    · rfl
    cases hexit : scan.exitAt held c with
    | some e => rfl
    | none =>
      have hnot := ExitScan.held_of_exitAt_none hexit
      exact ih (by omega) (by omega)

theorem simulateTrade_take (t : TradeSimulationInput) {limit : ℕ} (hhold : 0 < t.exitPolicy.maxHoldCandles)
    (h : t.setup.length ≤ limit ∨ t.setupEnd + t.exitPolicy.maxHoldCandles ≤ limit) :
    simulateTrade { t with setup := t.setup.take limit } = simulateTrade t := by
  rcases h with h | h
  · rw [List.take_of_length_le h]
  · have hdrop : (t.setup.take limit).drop t.setupEnd = (t.setup.drop t.setupEnd).take (limit - t.setupEnd) :=
      List.drop_take ..
    unfold simulateTrade
    simp only [hdrop]
    split
    · rfl
    split
    · rfl
    · split
      · rfl
      · rw [ExitScan.run_take _ _ hhold (by dsimp only; omega)]
        rfl

section Replay

variable {X : Type} {ctx : ReplayContext X} {full bias entry : List CandleDto} {limit : ℕ} {anchor : ℤ}
  {s : ReplayState}

/-- A pointer whose hold the limit keeps. -/
def HoldKept (ctx : ReplayContext X) (full : List CandleDto) (limit : ℕ) (anchor : ℤ) : Prop :=
  full.length ≤ limit ∨
    closedCount full ctx.setupPeriodMs anchor + ctx.exitPolicy.maxHoldCandles ≤ limit

theorem closedCount_le (candles : List CandleDto) (periodMs anchor : ℤ) :
    closedCount candles periodMs anchor ≤ candles.length :=
  (List.takeWhile_sublist _).length_le

theorem HoldKept.closedCount_take_eq (h : HoldKept ctx full limit anchor) :
    closedCount (full.take limit) ctx.setupPeriodMs anchor = closedCount full ctx.setupPeriodMs anchor := by
  rw [closedCount_take, min_eq_right]
  rcases h with h | h
  · exact (closedCount_le _ _ _).trans h
  · omega

theorem HoldKept.take_closed (h : HoldKept ctx full limit anchor) :
    (full.take limit).take (closedCount full ctx.setupPeriodMs anchor) =
      full.take (closedCount full ctx.setupPeriodMs anchor) := by
  rw [List.take_take]
  rcases h with h | h
  · rw [min_eq_left ((closedCount_le _ _ _).trans h)]
  · rw [min_eq_left (by omega)]

theorem replayDirection_take (hhold : 0 < ctx.exitPolicy.maxHoldCandles) (h : HoldKept ctx full limit anchor)
    (result : EvaluationEngineResult X) (trades : List BacktestTrade) (direction : Direction) :
    replayDirection ctx (full.take limit) (closedCount full ctx.setupPeriodMs anchor) anchor result trades
        direction =
      replayDirection ctx full (closedCount full ctx.setupPeriodMs anchor) anchor result trades direction := by
  unfold replayDirection
  dsimp only
  rw [h.take_closed]
  split
  · rfl
  split
  · rfl
  refine bind_congr fun score => ?_
  split
  · rfl
  · exact congrArg (fun trade => Except.ok (trades ++ [trade]))
      (simulateTrade_take ⟨_, _, _, full, _, _, _, _, score, _, ctx.exitPolicy, _, _⟩ hhold h)

theorem replayAnchor_take (hhold : 0 < ctx.exitPolicy.maxHoldCandles) (h : HoldKept ctx full limit anchor)
    (hs : s.setupEnd ≤ closedCount full ctx.setupPeriodMs anchor) :
    replayAnchor ctx ⟨bias, full.take limit, entry⟩ s anchor = replayAnchor ctx ⟨bias, full, entry⟩ s anchor := by
  have hend : advancePrefix (full.take limit) ctx.setupPeriodMs anchor s.setupEnd =
      closedCount full ctx.setupPeriodMs anchor := by
    rw [advancePrefix_eq (by rw [h.closedCount_take_eq]; exact hs), h.closedCount_take_eq]
  have hdirection : replayDirection ctx (full.take limit) (closedCount full ctx.setupPeriodMs anchor) anchor =
      replayDirection ctx full (closedCount full ctx.setupPeriodMs anchor) anchor := by
    funext result trades direction
    exact replayDirection_take hhold h result trades direction
  unfold replayAnchor
  simp only [hend, advancePrefix_eq hs, h.take_closed, hdirection]

theorem replay_take (hhold : 0 < ctx.exitPolicy.maxHoldCandles) {anchors : List ℤ}
    (hascending : anchors.Pairwise (· < ·)) (h : ∀ a ∈ anchors, HoldKept ctx full limit a)
    (hs : ∀ a ∈ anchors, s.setupEnd ≤ closedCount full ctx.setupPeriodMs a) :
    anchors.foldlM (replayAnchor ctx ⟨bias, full.take limit, entry⟩) s =
      anchors.foldlM (replayAnchor ctx ⟨bias, full, entry⟩) s := by
  induction anchors generalizing s with
  | nil => rfl
  | cons a as ih =>
    obtain ⟨hhead, htail⟩ := List.pairwise_cons.mp hascending
    have hsa := hs a List.mem_cons_self
    rw [List.foldlM_cons, List.foldlM_cons, replayAnchor_take hhold (h a List.mem_cons_self) hsa]
    cases hstep : replayAnchor ctx ⟨bias, full, entry⟩ s a with
    | error e => rfl
    | ok t =>
      refine ih htail (fun b hb => h b (List.mem_cons_of_mem _ hb)) fun b hb => ?_
      rw [(replayAnchor_ok hstep).2.1, advancePrefix_eq hsa]
      exact closedCount_mono _ _ (hhead b hb).le

/-! ## The engine -/

variable {fns : BacktestFunctions X} {input : BacktestEngineInput} {fromMs toMs : ℤ}

theorem parseExitPolicy_hold {policy : JsValue} {p : BacktestExitPolicy} (h : parseExitPolicy policy = some p) :
    0 < p.maxHoldCandles := by
  unfold parseExitPolicy at h
  simp only [Option.bind_eq_bind, Option.bind_eq_some_iff] at h
  obtain ⟨fields, -, stopLoss, -, takeProfit, -, hold, hfield, -, -, -, -, h⟩ := h
  cases h
  unfold natField at hfield
  split at hfield
  · cases hfield
    exact Nat.succ_pos 99
  · split at hfield
    · rename_i hin
      cases hfield
      dsimp only
      omega
    · cases hfield
  · cases hfield

theorem prepareSeries_eq_self {candles : List CandleDto} (h : candles.Pairwise fun a b => a.time < b.time) :
    prepareSeries candles = candles :=
  Series.ofEntries_eq_self h

theorem runBacktest_take (hctx : replayContext fns input = .ok (ctx, fromMs))
    (hsorted : full.Pairwise fun a b => a.time < b.time)
    (h : SetupCap full limit ctx.setupPeriodMs fromMs ctx.toMs ctx.exitPolicy.maxHoldCandles) :
    runBacktest fns { input with candles := ⟨bias, full.take limit, entry⟩ } =
      runBacktest fns { input with candles := ⟨bias, full, entry⟩ } := by
  have hhold := parseExitPolicy_hold (replayContext_ok hctx).exitPolicy
  have hrun : ∀ candles, runBacktest fns { input with candles } = do
      let series := preparedSeries candles
      let final ← (replayAnchors ctx fromMs series).foldlM (replayAnchor ctx series) .start
      return ⟨final.trades, computeMetrics final.trades (replayAnchors ctx fromMs series).length ctx.costPolicy,
        (replayAnchors ctx fromMs series).length⟩ := by
    intro candles
    have hctx' : replayContext fns { input with candles } = .ok (ctx, fromMs) := hctx
    unfold runBacktest
    rw [hctx']
    rfl
  have hanchors : replayAnchors ctx fromMs ⟨prepareSeries bias, full.take limit, prepareSeries entry⟩ =
      replayAnchors ctx fromMs ⟨prepareSeries bias, full, prepareSeries entry⟩ := h.anchors
  have hreplay := @replay_take X ctx full (prepareSeries bias) (prepareSeries entry) limit .start hhold
    (replayAnchors ctx fromMs ⟨prepareSeries bias, full, prepareSeries entry⟩)
    (replayAnchors_ascending ctx fromMs hsorted) (fun a ha => h.hold a ha) fun a _ => Nat.zero_le _
  rw [hrun, hrun]
  unfold preparedSeries
  dsimp only
  rw [prepareSeries_eq_self hsorted, prepareSeries_eq_self (hsorted.sublist (List.take_sublist _ _)), hanchors,
    hreplay]

end Replay

theorem rangeBound_pos {ms : JsNumber} {bound : ℤ} (h : rangeBound ms = some bound) : 0 < bound := by
  unfold rangeBound at h
  split at h
  · split at h
    · rename_i hin
      cases h
      exact hin.2
    · cases h
  · cases h

/-- **Row caps never change a replay.**  Whatever roles are read, over stored series whose candles lie at least
    one period apart, the run on the capped series is the run on the windows without the caps: the same
    trades, metrics and steps, or the same refusal. -/
theorem row_caps_keep_replay {X : Type} (fns : BacktestFunctions X) (store : MarketStore) (config : VersionConfig)
    (timeframes : StrategyTimeframes) (instrument : Instrument) (reads : TimeframeRole → Bool)
    (input : BacktestEngineInput) (policy : BacktestExitPolicy) (fromMs toMs : ℤ)
    (hconfig : input.config = config.view) (htimeframes : config.timeframes = some timeframes)
    (hpolicy : parseExitPolicy input.exitPolicy = some policy)
    (hfrom : rangeBound input.fromMs = some fromMs) (hto : rangeBound input.toMs = some toMs)
    (hspaced : ∀ role, Spaced (timeframes.periodMs role) (store.series instrument (timeframes.of role)).candles) :
    runBacktest fns { input with
        candles := readCandles CandleSeries.load reads store config timeframes instrument fromMs toMs
          policy.maxHoldCandles } =
      runBacktest fns { input with
        candles := readCandles CandleSeries.window reads store config timeframes instrument fromMs toMs
          policy.maxHoldCandles } := by
  have hrole : ∀ (role : TimeframeRole) (setup : List CandleDto),
      (store.series instrument (timeframes.of role)).load (roleCoverageWindow config timeframes role fromMs
          (anchorHorizonMs setup (timeframes.periodMs .setup) fromMs toMs)) =
        (store.series instrument (timeframes.of role)).window (roleCoverageWindow config timeframes role fromMs
          (anchorHorizonMs setup (timeframes.periodMs .setup) fromMs toMs)) := fun role setup =>
    load_role (rangeBound_pos hfrom).le (anchorHorizonMs_ge _ _ _ _) (hspaced role)
  unfold readCandles
  dsimp only
  rw [hrole .htf_bias, hrole .entry, load_eq_take]
  cases hctx : replayContext fns input with
  | error e =>
    have hrefused : ∀ candles, runBacktest fns { input with candles } = .error e := by
      intro candles
      have hctx' : replayContext fns { input with candles } = .error e := hctx
      unfold runBacktest
      rw [hctx']
      rfl
    rw [hrefused, hrefused]
  | ok c =>
    obtain ⟨ctx, fromMs'⟩ := c
    have hfrom' := (replayContext_ok hctx).fromMs
    have hto' := (replayContext_ok hctx).toMs
    cases hfrom.symm.trans hfrom'
    cases hto.symm.trans hto'
    obtain ⟨tf, htf, -, hsetup, -⟩ := (replayContext_ok hctx).periods
    rw [hconfig] at htf
    cases htimeframes.symm.trans htf
    cases hpolicy.symm.trans (replayContext_ok hctx).exitPolicy
    have hperiod : 0 < ctx.setupPeriodMs := by
      rw [hsetup]
      exact timeframes.periodMs_pos .setup
    have hsetup' : Spaced ctx.setupPeriodMs (store.series instrument timeframes.setup).candles := by
      rw [hsetup]
      exact hspaced .setup
    set w := setupCoverageWindow config timeframes fromMs ctx.toMs ctx.exitPolicy.maxHoldCandles with hw
    have hfull := window_spaced hsetup' w
    refine runBacktest_take hctx (spaced_ascending hperiod hfull) (setupCap hperiod hfull ?_ ?_ rfl)
    · intro c hc
      refine le_trans ?_ (mem_window hc).1
      rw [hsetup]
      exact le_max_right _ _
    · intro c hc
      exact (mem_window hc).2

/-- What the service loads for one hour of the sample store: one anchor is evaluated, as without the caps. -/
theorem row_caps_keep_replay_hourly :
    let input := backtestInput sampleStore sampleVersion.config ⟨.h4, .h1, .m15⟩ sampleInstrument 7200000 10800000
      100 .both .undefined .undefined
    (runBacktest alwaysLong input).toOption.map (·.stepsEvaluated) = some 1 ∧
      runBacktest alwaysLong input = runBacktest alwaysLong { input with
        candles := readCandles CandleSeries.window (requiredCoverage sampleVersion.config.view) sampleStore
          sampleVersion.config ⟨.h4, .h1, .m15⟩ sampleInstrument 7200000 10800000 100 } := by
  intro input
  refine ⟨by decide +kernel, ?_⟩
  refine row_caps_keep_replay alwaysLong sampleStore sampleVersion.config ⟨.h4, .h1, .m15⟩ sampleInstrument
    (requiredCoverage sampleVersion.config.view) input ⟨.level, .tp3, 100⟩ 7200000 10800000 rfl rfl
    (by decide) (by decide) (by decide) ?_
  intro role
  cases role with
  | htf_bias => exact List.Pairwise.nil
  | setup => exact List.pairwise_singleton _ _
  | entry => exact List.Pairwise.nil

end VeltrixEye
