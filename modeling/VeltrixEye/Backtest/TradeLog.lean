import VeltrixEye.Backtest.RowCaps

/-!
# The trades of a run

Whatever the evaluation and the scorer answer, a run numbers its trades in the order of their signals,
signals only at closes of the setup series inside the range, and ends each trade after its signal, inside
the range and within the hold limit.
-/

namespace VeltrixEye

variable {X : Type} {ctx : ReplayContext X} {fromMs anchor : ℤ} {setup : List CandleDto}
  {trades trades' : List BacktestTrade}

/-- The candles that close after the signal and by the exit. -/
def heldCandles (setup : List CandleDto) (periodMs signal exit : ℤ) : List CandleDto :=
  setup.filter fun c => signal < c.time + periodMs ∧ c.time + periodMs ≤ exit

/-- A trade over a prepared setup series. -/
structure TradeLogged (ctx : ReplayContext X) (fromMs : ℤ) (setup : List CandleDto) (t : BacktestTrade) :
    Prop where
  signal : ∃ c ∈ setup, c.time + ctx.setupPeriodMs = t.signalAsOfMs
  range : fromMs ≤ t.signalAsOfMs ∧ t.signalAsOfMs < ctx.toMs
  exit : ∀ e, t.exitAsOfMs = some e → t.signalAsOfMs ≤ e ∧ e ≤ ctx.toMs
  held : ∀ e, t.exitAsOfMs = some e →
    (heldCandles setup ctx.setupPeriodMs t.signalAsOfMs e).length ≤ ctx.exitPolicy.maxHoldCandles

/-- The trades of a run, as they are appended. -/
structure TradesLogged (ctx : ReplayContext X) (fromMs : ℤ) (setup : List CandleDto)
    (trades : List BacktestTrade) : Prop where
  numbered : trades.map (·.seq) = List.range trades.length
  ordered : trades.Pairwise fun t u => t.signalAsOfMs ≤ u.signalAsOfMs
  logged : ∀ t ∈ trades, TradeLogged ctx fromMs setup t

/-! ## The exit of a trade -/

theorem ExitScan.run_within (scan : ExitScan) {candles : List CandleDto} {held : ℕ} {last : TradeExit}
    (hsorted : candles.Pairwise fun a b => a.time < b.time)
    (hafter : ∀ c ∈ candles, last.asOfMs < c.time + scan.setupPeriodMs) (hlast : last.asOfMs ≤ scan.toMs)
    (hheld : held < scan.exitPolicy.maxHoldCandles) {e : ℤ} (he : (scan.run candles held last).asOfMs = e) :
    last.asOfMs ≤ e ∧ e ≤ scan.toMs ∧
      held + (candles.filter fun c => c.time + scan.setupPeriodMs ≤ e).length ≤
        scan.exitPolicy.maxHoldCandles := by
  induction candles generalizing held last with
  | nil =>
    subst he
    exact ⟨le_rfl, hlast, hheld.le⟩
  | cons c cs ih =>
    obtain ⟨hhead, htail⟩ := List.pairwise_cons.mp hsorted
    have hc := hafter c List.mem_cons_self
    unfold ExitScan.run at he
    split at he
    · subst he
      refine ⟨le_rfl, hlast, ?_⟩
      rw [List.filter_eq_nil_iff.mpr fun d hd => by simpa using hafter d hd]
      exact hheld.le
    · rename_i hin
      split at he
      · rename_i exit hexit
        rw [ExitScan.exitAt_asOfMs hexit] at he
        subst he
        refine ⟨hc.le, not_lt.mp hin, ?_⟩
        have hnone : (cs.filter fun d => d.time + scan.setupPeriodMs ≤ c.time + scan.setupPeriodMs) = [] :=
          List.filter_eq_nil_iff.mpr fun d hd => by simpa using hhead d hd
        rw [List.filter_cons_of_pos (by simp), hnone, List.length_singleton]
        omega
      · rename_i hexit
        have hnot := ExitScan.held_of_exitAt_none hexit
        obtain ⟨hle, hto, hcount⟩ := ih htail
          (fun d hd => by simpa using hhead d hd) (not_lt.mp hin) (by omega) he
        refine ⟨hc.le.trans hle, hto, ?_⟩
        rw [List.filter_cons_of_pos (by simpa using hle), List.length_cons]
        omega

theorem simulateTrade_seq (t : TradeSimulationInput) : (simulateTrade t).seq = t.seq := by
  unfold simulateTrade
  simp only
  repeat' split
  all_goals rfl

theorem simulateTrade_within {t : TradeSimulationInput}
    (hsorted : t.setup.Pairwise fun a b => a.time < b.time)
    (hafter : ∀ c ∈ t.setup.drop t.setupEnd, t.anchor < c.time + t.setupPeriodMs) (hto : t.anchor ≤ t.toMs)
    (hhold : 0 < t.exitPolicy.maxHoldCandles) {e : ℤ} (h : (simulateTrade t).exitAsOfMs = some e) :
    t.anchor ≤ e ∧ e ≤ t.toMs ∧
      ((t.setup.drop t.setupEnd).filter fun c => c.time + t.setupPeriodMs ≤ e).length ≤
        t.exitPolicy.maxHoldCandles := by
  unfold simulateTrade at h
  simp only at h
  split at h
  · cases h
  split at h
  · cases h
  split at h
  · cases h
  rename_i levels _ _ stop _ _
  obtain ⟨hle, hrange, hcount⟩ := ExitScan.run_within
    ⟨t.direction, stop, selectTarget t.exitPolicy levels t.takeProfitMethod, t.exitPolicy,
      t.setupPeriodMs, t.toMs⟩ (hsorted.sublist (List.drop_sublist _ _)) hafter hto hhold
    (Option.some.inj h)
  exact ⟨hle, hrange, by simpa using hcount⟩

/-! ## The replay -/

theorem closedCount_split (hsorted : setup.Pairwise fun a b => a.time < b.time) (periodMs anchor : ℤ) :
    (∀ c ∈ setup.take (closedCount setup periodMs anchor), c.time + periodMs ≤ anchor) ∧
      ∀ c ∈ setup.drop (closedCount setup periodMs anchor), anchor < c.time + periodMs := by
  have htake := (List.prefix_iff_eq_take.mp
    (List.takeWhile_prefix (l := setup) fun c => decide (c.time + periodMs ≤ anchor))).symm
  rw [takeWhile_closed_eq hsorted] at htake
  have hclosed : setup.take (closedCount setup periodMs anchor) =
      setup.filter fun c => c.time + periodMs ≤ anchor := by
    rw [closedCount, takeWhile_closed_eq hsorted]
    exact htake
  refine ⟨fun c hc => ?_, fun c hc => ?_⟩
  · rw [hclosed] at hc
    simpa using (List.mem_filter.mp hc).2
  · by_contra hnot
    have hmem : c ∈ setup.take (closedCount setup periodMs anchor) := by
      rw [hclosed]
      exact List.mem_filter.mpr ⟨List.mem_of_mem_drop hc, by simpa using hnot⟩
    have hnodup : setup.Nodup := hsorted.imp fun hlt heq => by simp [heq] at hlt
    exact List.disjoint_take_drop hnodup le_rfl hmem hc

theorem TradesLogged.append {t : BacktestTrade} (h : TradesLogged ctx fromMs setup trades)
    (ht : TradeLogged ctx fromMs setup t) (hseq : t.seq = trades.length)
    (hlast : ∀ u ∈ trades, u.signalAsOfMs ≤ t.signalAsOfMs) :
    TradesLogged ctx fromMs setup (trades ++ [t]) where
  numbered := by simp [h.numbered, hseq, List.range_succ]
  ordered := List.pairwise_append.mpr
    ⟨h.ordered, List.pairwise_singleton _ _, fun u hu v hv => by
      rw [List.mem_singleton.mp hv]
      exact hlast u hu⟩
  logged u hu := by
    rcases List.mem_append.mp hu with hu | hu
    · exact h.logged u hu
    · rw [List.mem_singleton.mp hu]
      exact ht

/-- **One direction of one anchor** appends at most one trade, in order. -/
theorem replayDirection_logged (hsorted : setup.Pairwise fun a b => a.time < b.time)
    (hhold : 0 < ctx.exitPolicy.maxHoldCandles) (hanchor : ∃ c ∈ setup, c.time + ctx.setupPeriodMs = anchor)
    (hrange : fromMs ≤ anchor ∧ anchor < ctx.toMs) {result : EvaluationEngineResult X} {direction : Direction}
    (htrades : TradesLogged ctx fromMs setup trades ∧ ∀ t ∈ trades, t.signalAsOfMs ≤ anchor)
    (h : replayDirection ctx setup (closedCount setup ctx.setupPeriodMs anchor) anchor result trades
      direction = .ok trades') :
    TradesLogged ctx fromMs setup trades' ∧ ∀ t ∈ trades', t.signalAsOfMs ≤ anchor := by
  unfold replayDirection at h
  simp only at h
  split at h
  · cases h
    exact htrades
  · split at h
    · cases h
      exact htrades
    · obtain ⟨score, -, h⟩ := Except.bind_ok_iff.mp h
      split at h
      · cases h
        exact htrades
      · cases h
        obtain ⟨hclosed, hlater⟩ := closedCount_split hsorted ctx.setupPeriodMs anchor
        have hsignal := simulateTrade_signalAsOfMs
          ⟨trades.length, direction, anchor, setup, closedCount setup ctx.setupPeriodMs anchor,
            ctx.setupPeriodMs, ctx.toMs, (result.of direction).candidate, score, ctx.risk.takeProfitMethod,
            ctx.exitPolicy, ctx.costPolicy, ctx.pipSize.getD 1⟩
        refine ⟨htrades.1.append ⟨?_, ?_, fun e he => ?_, fun e he => ?_⟩ (simulateTrade_seq _)
          (by rw [hsignal]; exact htrades.2), fun t ht => ?_⟩
        · rw [hsignal]
          exact hanchor
        · rw [hsignal]
          exact hrange
        · rw [hsignal]
          obtain ⟨hle, hto, -⟩ := simulateTrade_within hsorted hlater hrange.2.le hhold he
          exact ⟨hle, hto⟩
        · rw [hsignal]
          obtain ⟨-, -, hcount⟩ := simulateTrade_within hsorted hlater hrange.2.le hhold he
          -- no candle of the closed part closes after the signal
          refine le_trans ?_ hcount
          rw [heldCandles, ← List.take_append_drop (closedCount setup ctx.setupPeriodMs anchor) setup,
            List.filter_append, List.filter_eq_nil_iff.mpr fun c hc => by
              have := hclosed c hc
              simp only [decide_eq_true_eq, not_and]
              omega]
          rw [List.nil_append, List.take_append_drop]
          refine (List.monotone_filter_right _ fun c hc => ?_).length_le
          simp only [decide_eq_true_eq] at hc ⊢
          exact hc.2
        · rcases List.mem_append.mp ht with ht | ht
          · exact htrades.2 t ht
          · rw [List.mem_singleton.mp ht, hsignal]

theorem replay_logged {series : CandleSet} (hsorted : series.setup.Pairwise fun a b => a.time < b.time)
    (hhold : 0 < ctx.exitPolicy.maxHoldCandles) {anchors : List ℤ} (hascending : anchors.Pairwise (· < ·))
    (hanchors : ∀ a ∈ anchors, (∃ c ∈ series.setup, c.time + ctx.setupPeriodMs = a) ∧ fromMs ≤ a ∧ a < ctx.toMs)
    {s t : ReplayState} (hs : TradesLogged ctx fromMs series.setup s.trades)
    (hearlier : ∀ a ∈ anchors, s.setupEnd ≤ closedCount series.setup ctx.setupPeriodMs a ∧
      ∀ u ∈ s.trades, u.signalAsOfMs ≤ a)
    (h : anchors.foldlM (replayAnchor ctx series) s = .ok t) : TradesLogged ctx fromMs series.setup t.trades := by
  induction anchors generalizing s with
  | nil =>
    cases h
    exact hs
  | cons a as ih =>
    obtain ⟨hhead, htail⟩ := List.pairwise_cons.mp hascending
    obtain ⟨hclose, hrange⟩ := hanchors a List.mem_cons_self
    obtain ⟨hend, hsignals⟩ := hearlier a List.mem_cons_self
    rw [List.foldlM_cons] at h
    obtain ⟨u, hu, h⟩ := Except.bind_ok_iff.mp h
    obtain ⟨-, hsetup, -, result, -, htrades⟩ := replayAnchor_ok hu
    rw [advancePrefix_eq hend] at hsetup
    rw [hsetup] at htrades
    obtain ⟨hlogged, hlast⟩ := Except.foldlM_inv
      (P := fun ts => TradesLogged ctx fromMs series.setup ts ∧ ∀ t ∈ ts, t.signalAsOfMs ≤ a)
      (fun _ _ _ _ hts hstep => replayDirection_logged hsorted hhold hclose hrange hts hstep)
      ⟨hs, hsignals⟩ htrades
    refine ih htail (fun b hb => hanchors b (List.mem_cons_of_mem _ hb)) hlogged (fun b hb => ⟨?_, ?_⟩) h
    · rw [hsetup]
      exact closedCount_mono _ _ (hhead b hb).le
    · exact fun v hv => (hlast v hv).trans (hhead b hb).le

/-- **The trades of a run**: numbered in the order of their signals, signalled at setup closes in
    `[fromMs, toMs)`, and ended after the signal, by `toMs` and within the hold limit. -/
theorem trades_are_logged {fns : BacktestFunctions X} {input : BacktestEngineInput} {r : BacktestEngineResult}
    (h : runBacktest fns input = .ok r) :
    ∃ (ctx : ReplayContext X) (fromMs : ℤ), ctx.FixedBy fns input fromMs ∧
      TradesLogged ctx fromMs (prepareSeries input.candles.setup) r.trades := by
  obtain ⟨ctx, fromMs, final, hctx, hfinal, htrades⟩ := runBacktest_ok h
  have hfixed := replayContext_ok hctx
  have hsorted : (prepareSeries input.candles.setup).Pairwise fun a b => a.time < b.time :=
    Series.ofEntries_strict _ _
  refine ⟨ctx, fromMs, hfixed, ?_⟩
  rw [htrades]
  refine replay_logged hsorted (parseExitPolicy_hold hfixed.exitPolicy)
    (replayAnchors_ascending ctx fromMs hsorted) (fun a ha => ?_) ⟨rfl, .nil, by simp [ReplayState.start]⟩
    (fun a _ => ⟨Nat.zero_le _, by simp [ReplayState.start]⟩) hfinal
  obtain ⟨hmem, hrange⟩ := List.mem_filter.mp (List.mem_of_mem_take ha)
  obtain ⟨c, hc, hclose⟩ := List.mem_map.mp hmem
  exact ⟨⟨c, hc, hclose⟩, by simpa using hrange⟩

/-- Three signals, the first of them stopped out. -/
theorem trades_are_logged_hourly :
    ∃ r, runBacktest alwaysLong (hourlyInput ⟨10800000, 95, 96, 94, 95, none⟩) = .ok r ∧
      r.trades.length = 3 ∧ ∃ (ctx : ReplayContext Unit) (fromMs : ℤ),
        ctx.FixedBy alwaysLong (hourlyInput ⟨10800000, 95, 96, 94, 95, none⟩) fromMs ∧
          TradesLogged ctx fromMs
            (prepareSeries (hourlyInput ⟨10800000, 95, 96, 94, 95, none⟩).candles.setup) r.trades := by
  have hlength : (runBacktest alwaysLong (hourlyInput ⟨10800000, 95, 96, 94, 95, none⟩)).toOption.map
      (·.trades.length) = some 3 := by decide +kernel
  cases hr : runBacktest alwaysLong (hourlyInput ⟨10800000, 95, 96, 94, 95, none⟩) with
  | error e =>
    rw [hr] at hlength
    cases hlength
  | ok r =>
    rw [hr] at hlength
    exact ⟨r, rfl, Option.some.inj hlength, trades_are_logged hr⟩

end VeltrixEye
