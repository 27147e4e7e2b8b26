import VeltrixEye.Lib.Numerals
import VeltrixEye.Backtest.Engine

/-!
# The replay never looks ahead

Two inputs that differ only in candles closing after `T` give the same trades up to `T`
(`no_look_ahead`).  A prepared series is its candles closed by `T` followed by the later ones, and
every use of it at an anchor up to `T` (the prefix pointers, the anchors, the exit scan) stays
inside the first part unless it has already passed `T`.
-/

namespace VeltrixEye

/-! ## Statements -/

/-- The candles of a series that are closed by `T`. -/
def closedBy (T periodMs : ℤ) (candles : List CandleDto) : List CandleDto :=
  candles.filter (fun c => decide (c.time + periodMs ≤ T))

/-- Two inputs that differ only in candles whose close time is after `T`. -/
structure DiffersAfter (T : ℤ) (input input' : BacktestEngineInput) : Prop where
  rest : { input with candles := input'.candles } = input'
  htf_bias : ∀ tf, input.config.timeframes = some tf →
    closedBy T (timeframeMinutes tf.htf_bias * 60000) input.candles.htf_bias =
      closedBy T (timeframeMinutes tf.htf_bias * 60000) input'.candles.htf_bias
  setup : ∀ tf, input.config.timeframes = some tf →
    closedBy T (timeframeMinutes tf.setup * 60000) input.candles.setup =
      closedBy T (timeframeMinutes tf.setup * 60000) input'.candles.setup
  entry : ∀ tf, input.config.timeframes = some tf →
    closedBy T (timeframeMinutes tf.entry * 60000) input.candles.entry =
      closedBy T (timeframeMinutes tf.entry * 60000) input'.candles.entry

/-- A stop, target or hold-limit exit. -/
def BacktestExitReason.Settled : BacktestExitReason → Prop
  | stop_loss | take_profit_1 | take_profit_2 | take_profit_3 | max_hold => True
  | range_end | no_levels => False

/-- The trade's exit was settled by `T`. -/
def BacktestTrade.SettledBy (T : ℤ) (t : BacktestTrade) : Prop :=
  t.exitReason.Settled ∧ ∃ ms, t.exitAsOfMs = some ms ∧ ms ≤ T

/-- Two trades agree in everything known at the signal, and in the exit once one is settled. -/
structure AgreeBy (T : ℤ) (t t' : BacktestTrade) : Prop where
  seq : t.seq = t'.seq
  direction : t.direction = t'.direction
  signalAsOfMs : t.signalAsOfMs = t'.signalAsOfMs
  entryPrice : t.entryPrice = t'.entryPrice
  stopLossPrice : t.stopLossPrice = t'.stopLossPrice
  tp1Price : t.tp1Price = t'.tp1Price
  tp2Price : t.tp2Price = t'.tp2Price
  tp3Price : t.tp3Price = t'.tp3Price
  qualityScore : t.qualityScore = t'.qualityScore
  qualityGrade : t.qualityGrade = t'.qualityGrade
  exit : t.SettledBy T ∨ t'.SettledBy T →
    t.exitReason = t'.exitReason ∧ t.exitPrice = t'.exitPrice ∧ t.exitAsOfMs = t'.exitAsOfMs ∧
      t.pnlR = t'.pnlR ∧ t.pnlCurrency = t'.pnlCurrency

theorem AgreeBy.refl (T : ℤ) (t : BacktestTrade) : AgreeBy T t t :=
  ⟨rfl, rfl, rfl, rfl, rfl, rfl, rfl, rfl, rfl, rfl, fun _ => ⟨rfl, rfl, rfl, rfl, rfl⟩⟩

theorem signals_of_agree {T : ℤ} {trades trades' : List BacktestTrade}
    (h : List.Forall₂ (AgreeBy T) trades trades') (hby : ∀ t ∈ trades, t.signalAsOfMs ≤ T) :
    ∀ t ∈ trades', t.signalAsOfMs ≤ T := by
  induction h with
  | nil => exact hby
  | cons hhead _ ih =>
    obtain ⟨hfirst, hrest⟩ := List.forall_mem_cons.mp hby
    refine List.forall_mem_cons.mpr ⟨?_, ih hrest⟩
    rw [← hhead.signalAsOfMs]
    exact hfirst

/-! ## The exit scan -/

/-- Every candle of the list closes after `T`. -/
def ClosesAfter (T periodMs : ℤ) (candles : List CandleDto) : Prop :=
  ∀ c ∈ candles, T < c.time + periodMs

section Scan

variable {T : ℤ} {scan : ExitScan} {held : ℕ} {c : CandleDto}

theorem ExitScan.exitAt_asOfMs {e : TradeExit} (h : scan.exitAt held c = some e) :
    e.asOfMs = c.time + scan.setupPeriodMs := by
  unfold ExitScan.exitAt at h
  simp only at h
  split at h
  · cases h
    rfl
  · split at h
    · cases h
      rfl
    · split at h
      · cases h
        rfl
      · cases h

theorem ExitScan.run_late {late : List CandleDto} (hlate : ClosesAfter T scan.setupPeriodMs late)
    {held : ℕ} {last : TradeExit} (hlast : last.reason = .range_end) :
    (scan.run late held last).reason = .range_end ∨ T < (scan.run late held last).asOfMs := by
  induction late generalizing held last with
  | nil => exact .inl hlast
  | cons c cs ih =>
    unfold ExitScan.run
    split
    · exact .inl hlast
    split
    · rename_i e he
      rw [ExitScan.exitAt_asOfMs he]
      exact .inr (hlate c List.mem_cons_self)
    · exact ih (fun d hd => hlate d (List.mem_cons_of_mem _ hd)) rfl

theorem ExitScan.run_agree {shared late : List CandleDto} (late' : List CandleDto)
    (hlate : ClosesAfter T scan.setupPeriodMs late)
    {held : ℕ} {last : TradeExit} (hlast : last.reason = .range_end)
    (hreason : (scan.run (shared ++ late) held last).reason ≠ .range_end)
    (hby : (scan.run (shared ++ late) held last).asOfMs ≤ T) :
    scan.run (shared ++ late') held last = scan.run (shared ++ late) held last := by
  induction shared generalizing held last with
  | nil =>
    rcases ExitScan.run_late hlate hlast with h | h
    · exact absurd h hreason
    · exact absurd hby (not_le.mpr h)
  | cons c cs ih =>
    simp only [List.cons_append] at hreason hby ⊢
    unfold ExitScan.run at hreason hby ⊢
    split
    · rfl
    rename_i hin
    rw [if_neg hin] at hreason hby
    cases he : scan.exitAt held c with
    | some e => rfl
    | none =>
      simp only [he] at hreason hby ⊢
      exact ih rfl hreason hby

end Scan

/-! ## One trade -/

theorem BacktestExitReason.Settled.ne_range_end {r : BacktestExitReason} (h : r.Settled) :
    r ≠ .range_end := by
  rintro rfl
  exact h

theorem simulateTrade_agree {T : ℤ} (t : TradeSimulationInput) {shared late late' : List CandleDto}
    (hend : t.setupEnd ≤ shared.length) (hlate : ClosesAfter T t.setupPeriodMs late)
    (hlate' : ClosesAfter T t.setupPeriodMs late') :
    AgreeBy T (simulateTrade { t with setup := shared ++ late })
      (simulateTrade { t with setup := shared ++ late' }) := by
  have hdrop : ∀ rest : List CandleDto,
      (shared ++ rest).drop t.setupEnd = shared.drop t.setupEnd ++ rest := fun rest =>
    List.drop_append_of_le_length hend
  unfold simulateTrade
  simp only [hdrop]
  split
  · exact .refl T _
  rename_i levels _
  split
  · exact .refl T _
  rename_i stop _
  split
  · exact .refl T _
  refine ⟨rfl, rfl, rfl, rfl, rfl, rfl, rfl, rfl, rfl, rfl, ?_⟩
  -- the exit settled in one scan is found by the other
  rintro (⟨hsettled, ms, hms, hby⟩ | ⟨hsettled, ms, hms, hby⟩)
  · cases hms
    simp only
    rw [ExitScan.run_agree late' hlate rfl hsettled.ne_range_end hby]
    exact ⟨rfl, rfl, rfl, rfl, rfl⟩
  · cases hms
    simp only
    rw [ExitScan.run_agree late hlate' rfl hsettled.ne_range_end hby]
    exact ⟨rfl, rfl, rfl, rfl, rfl⟩

theorem simulateTrade_signalAsOfMs (t : TradeSimulationInput) :
    (simulateTrade t).signalAsOfMs = t.anchor := by
  unfold simulateTrade
  simp only
  repeat' split
  all_goals rfl

/-! ## Series that share their candles up to `T` -/

/-- Two series with a common part, continued by candles that close after `T`. -/
structure SharedBy (T periodMs : ℤ) (series series' : List CandleDto) where
  shared : List CandleDto
  late : List CandleDto
  late' : List CandleDto
  eq : series = shared ++ late
  eq' : series' = shared ++ late'
  closes : ∀ c ∈ shared, c.time + periodMs ≤ T
  closesAfter : ClosesAfter T periodMs late
  closesAfter' : ClosesAfter T periodMs late'

theorem prepareSeries_split (T periodMs : ℤ) (candles : List CandleDto) :
    prepareSeries candles = prepareSeries (closedBy T periodMs candles) ++
      (prepareSeries candles).filter (fun c => decide (T - periodMs < c.time)) := by
  have hclosed : closedBy T periodMs candles =
      candles.filter (fun c => (fun t => decide (t ≤ T - periodMs)) c.time) :=
    List.filter_congr fun c _ => by simp [le_sub_iff_add_le]
  have hfilter := Series.filter_ofEntries CandleDto.time (fun t => decide (t ≤ T - periodMs)) candles
  have hsplit := Series.split_at (Series.ofEntries_strict CandleDto.time candles) (T - periodMs)
  rw [hclosed]
  unfold prepareSeries
  rw [← hfilter]
  exact hsplit

/-- Candle lists that agree up to `T` are prepared into series that share their part up to `T`. -/
def sharedBy_of_closedBy {T periodMs : ℤ} {candles candles' : List CandleDto}
    (h : closedBy T periodMs candles = closedBy T periodMs candles') :
    SharedBy T periodMs (prepareSeries candles) (prepareSeries candles') where
  shared := prepareSeries (closedBy T periodMs candles)
  late := (prepareSeries candles).filter (fun c => decide (T - periodMs < c.time))
  late' := (prepareSeries candles').filter (fun c => decide (T - periodMs < c.time))
  eq := prepareSeries_split T periodMs candles
  eq' := by
    rw [h]
    exact prepareSeries_split T periodMs candles'
  closes := by
    intro c hc
    have hfilter := Series.filter_ofEntries CandleDto.time (fun t => decide (t + periodMs ≤ T)) candles
    unfold prepareSeries closedBy at hc
    rw [← hfilter] at hc
    simpa using (List.mem_filter.mp hc).2
  closesAfter := by
    intro c hc
    have := (List.mem_filter.mp hc).2
    simp only [decide_eq_true_eq] at this
    omega
  closesAfter' := by
    intro c hc
    have := (List.mem_filter.mp hc).2
    simp only [decide_eq_true_eq] at this
    omega

section Pointers

variable {T periodMs anchor : ℤ} {series series' : List CandleDto}

theorem advancePrefix_shared {shared late : List CandleDto} (hlate : ClosesAfter T periodMs late)
    (hanchor : anchor ≤ T) {start : ℕ} (hstart : start ≤ shared.length) :
    advancePrefix (shared ++ late) periodMs anchor start =
      advancePrefix shared periodMs anchor start := by
  unfold advancePrefix
  rw [List.drop_append_of_le_length hstart]
  have hnone : late.takeWhile (fun c => decide (c.time + periodMs ≤ anchor)) = [] := by
    cases late with
    | nil => rfl
    | cons c cs =>
      have := hlate c List.mem_cons_self
      rw [List.takeWhile_cons_of_neg]
      simp only [decide_eq_true_eq]
      omega
  rw [List.takeWhile_append]
  split
  · rename_i hall
    rw [hnone, List.append_nil, hall]
  · rfl

theorem advancePrefix_le {shared : List CandleDto} {start : ℕ} (hstart : start ≤ shared.length) :
    advancePrefix shared periodMs anchor start ≤ shared.length := by
  have h := (List.takeWhile_sublist (l := shared.drop start)
    (fun c => decide (c.time + periodMs ≤ anchor))).length_le
  rw [List.length_drop] at h
  unfold advancePrefix
  omega

/-- **One pointer step in two runs**: the same pointer, still in the shared part. -/
theorem SharedBy.advance (h : SharedBy T periodMs series series') (hanchor : anchor ≤ T) {start : ℕ}
    (hstart : start ≤ h.shared.length) :
    advancePrefix series periodMs anchor start = advancePrefix series' periodMs anchor start ∧
      advancePrefix series periodMs anchor start ≤ h.shared.length := by
  have hrun := advancePrefix_shared h.closesAfter hanchor hstart
  have hrun' := advancePrefix_shared h.closesAfter' hanchor hstart
  rw [← h.eq] at hrun
  rw [← h.eq'] at hrun'
  refine ⟨hrun.trans hrun'.symm, ?_⟩
  rw [hrun]
  exact advancePrefix_le hstart

theorem SharedBy.take_eq (h : SharedBy T periodMs series series') {n : ℕ}
    (hn : n ≤ h.shared.length) : series.take n = series'.take n := by
  obtain ⟨shared, late, late', rfl, rfl, _, _, _⟩ := h
  rw [List.take_append_of_le_length hn, List.take_append_of_le_length hn]

theorem SharedBy.simulateTrade {t : TradeSimulationInput}
    (h : SharedBy T t.setupPeriodMs series series') (hend : t.setupEnd ≤ h.shared.length) :
    AgreeBy T (simulateTrade { t with setup := series })
      (VeltrixEye.simulateTrade { t with setup := series' }) := by
  obtain ⟨shared, late, late', rfl, rfl, _, hlate, hlate'⟩ := h
  exact simulateTrade_agree t hend hlate hlate'

end Pointers

/-! ## One anchor -/

section Anchor

variable {X : Type} {ctx : ReplayContext X} {T anchor : ℤ}

theorem replayDirection_extends {setup : List CandleDto} {setupEnd : ℕ}
    {result : EvaluationEngineResult X} {trades trades' : List BacktestTrade} {direction : Direction}
    (h : replayDirection ctx setup setupEnd anchor result trades direction = .ok trades') :
    ∃ new, trades' = trades ++ new ∧ ∀ t ∈ new, t.signalAsOfMs = anchor := by
  unfold replayDirection at h
  simp only at h
  split at h
  · cases h
    exact ⟨[], by simp⟩
  · split at h
    · cases h
      exact ⟨[], by simp⟩
    · obtain ⟨score, -, h⟩ := Except.bind_ok_iff.mp h
      split at h
      · cases h
        exact ⟨[], by simp⟩
      · cases h
        refine ⟨_, rfl, fun t ht => ?_⟩
        rw [List.mem_singleton.mp ht, simulateTrade_signalAsOfMs]

theorem replayDirection_agree {setup setup' : List CandleDto} {setupEnd : ℕ}
    (hsetup : SharedBy T ctx.setupPeriodMs setup setup') (hend : setupEnd ≤ hsetup.shared.length)
    {result : EvaluationEngineResult X} {trades₁ trades₂ trades₁' trades₂' : List BacktestTrade}
    {direction : Direction} (hagree : List.Forall₂ (AgreeBy T) trades₁ trades₂)
    (h₁ : replayDirection ctx setup setupEnd anchor result trades₁ direction = .ok trades₁')
    (h₂ : replayDirection ctx setup' setupEnd anchor result trades₂ direction = .ok trades₂') :
    List.Forall₂ (AgreeBy T) trades₁' trades₂' := by
  unfold replayDirection at h₁ h₂
  rw [← hsetup.take_eq hend] at h₂
  simp only at h₁ h₂
  split at h₁
  · rename_i hpassed
    rw [if_pos hpassed] at h₂
    cases h₁
    cases h₂
    exact hagree
  · rename_i hpassed
    rw [if_neg hpassed] at h₂
    split at h₁
    · rename_i hempty
      rw [if_pos hempty] at h₂
      cases h₁
      cases h₂
      exact hagree
    · rename_i hempty
      rw [if_neg hempty] at h₂
      obtain ⟨score, hscore, h₁⟩ := Except.bind_ok_iff.mp h₁
      obtain ⟨score', hscore', h₂⟩ := Except.bind_ok_iff.mp h₂
      rw [hscore] at hscore'
      cases hscore'
      split at h₁
      · rename_i hlow
        rw [if_pos hlow] at h₂
        cases h₁
        cases h₂
        exact hagree
      · rename_i hlow
        rw [if_neg hlow] at h₂
        cases h₁
        cases h₂
        refine List.rel_append hagree (.cons ?_ .nil)
        rw [← hagree.length_eq]
        exact SharedBy.simulateTrade (t := ⟨trades₁.length, direction, anchor, setup, setupEnd,
          ctx.setupPeriodMs, ctx.toMs, (result.of direction).candidate, score,
          ctx.risk.takeProfitMethod, ctx.exitPolicy, ctx.costPolicy, ctx.pipSize.getD 1⟩) hsetup hend

theorem replayDirections_extends {setup : List CandleDto} {setupEnd : ℕ}
    {result : EvaluationEngineResult X} {trades trades' : List BacktestTrade}
    {directions : List Direction}
    (h : directions.foldlM (replayDirection ctx setup setupEnd anchor result) trades = .ok trades') :
    ∃ new, trades' = trades ++ new ∧ ∀ t ∈ new, t.signalAsOfMs = anchor := by
  refine Except.foldlM_inv (P := fun ts => ∃ new, ts = trades ++ new ∧ ∀ t ∈ new,
    t.signalAsOfMs = anchor) ?_ ⟨[], by simp⟩ h
  rintro s direction t - ⟨new, rfl, hnew⟩ hstep
  obtain ⟨more, rfl, hmore⟩ := replayDirection_extends hstep
  refine ⟨new ++ more, by rw [List.append_assoc], fun x hx => ?_⟩
  rcases List.mem_append.mp hx with hx | hx
  · exact hnew x hx
  · exact hmore x hx

theorem replayAnchor_ok {series : CandleSet} {s t : ReplayState}
    (h : replayAnchor ctx series s anchor = .ok t) :
    t.htfEnd = advancePrefix series.htf_bias ctx.htfPeriodMs anchor s.htfEnd ∧
    t.setupEnd = advancePrefix series.setup ctx.setupPeriodMs anchor s.setupEnd ∧
    t.entryEnd = advancePrefix series.entry ctx.entryPeriodMs anchor s.entryEnd ∧
    ∃ result, ctx.fns.evaluate ⟨ctx.config, ctx.instrument, ctx.pipSize,
        ⟨series.htf_bias.take t.htfEnd, series.setup.take t.setupEnd,
          series.entry.take t.entryEnd⟩, anchor⟩ = .ok result ∧
      ctx.directions.foldlM (replayDirection ctx series.setup t.setupEnd anchor result) s.trades =
        .ok t.trades := by
  unfold replayAnchor at h
  simp only at h
  obtain ⟨-, -, h⟩ := Except.bind_ok_iff.mp h
  obtain ⟨-, -, h⟩ := Except.bind_ok_iff.mp h
  obtain ⟨result, hresult, h⟩ := Except.bind_ok_iff.mp h
  obtain ⟨trades, htrades, h⟩ := Except.bind_ok_iff.mp h
  cases h
  exact ⟨rfl, rfl, rfl, result, hresult, htrades⟩

/-- The three series of two runs share their parts up to `T`. -/
structure SharedSet (ctx : ReplayContext X) (T : ℤ) (series series' : CandleSet) where
  htf_bias : SharedBy T ctx.htfPeriodMs series.htf_bias series'.htf_bias
  setup : SharedBy T ctx.setupPeriodMs series.setup series'.setup
  entry : SharedBy T ctx.entryPeriodMs series.entry series'.entry

variable {series series' : CandleSet}

/-- Two runs side by side, before their first anchor after `T`: the same pointers, inside the shared
    parts, and trades that agree. -/
structure InStep (h : SharedSet ctx T series series') (s s' : ReplayState) : Prop where
  htfEnd : s.htfEnd = s'.htfEnd
  setupEnd : s.setupEnd = s'.setupEnd
  entryEnd : s.entryEnd = s'.entryEnd
  htfEnd_le : s.htfEnd ≤ h.htf_bias.shared.length
  setupEnd_le : s.setupEnd ≤ h.setup.shared.length
  entryEnd_le : s.entryEnd ≤ h.entry.shared.length
  agree : List.Forall₂ (AgreeBy T) s.trades s'.trades
  signals : ∀ t ∈ s.trades, t.signalAsOfMs ≤ T

/-- **One anchor up to `T` in two runs.** -/
theorem replayAnchor_inStep {h : SharedSet ctx T series series'} {s s' t t' : ReplayState}
    (hs : InStep h s s') (hanchor : anchor ≤ T) (hrun : replayAnchor ctx series s anchor = .ok t)
    (hrun' : replayAnchor ctx series' s' anchor = .ok t') : InStep h t t' := by
  obtain ⟨hhtf, hsetup, hentry, result, hresult, htrades⟩ := replayAnchor_ok hrun
  obtain ⟨hhtf', hsetup', hentry', result', hresult', htrades'⟩ := replayAnchor_ok hrun'
  obtain ⟨ehtf, lehtf⟩ := h.htf_bias.advance hanchor hs.htfEnd_le
  obtain ⟨esetup, lesetup⟩ := h.setup.advance hanchor hs.setupEnd_le
  obtain ⟨eentry, leentry⟩ := h.entry.advance hanchor hs.entryEnd_le
  rw [← hs.htfEnd, ← ehtf, ← hhtf] at hhtf'
  rw [← hs.setupEnd, ← esetup, ← hsetup] at hsetup'
  rw [← hs.entryEnd, ← eentry, ← hentry] at hentry'
  rw [← hhtf] at lehtf
  rw [← hsetup] at lesetup
  rw [← hentry] at leentry
  -- the engine is called on the same prefixes, so it returns the same evaluation
  rw [hhtf', hsetup', hentry', ← h.htf_bias.take_eq lehtf, ← h.setup.take_eq lesetup,
    ← h.entry.take_eq leentry, hresult] at hresult'
  cases hresult'
  rw [hsetup'] at htrades'
  have hagree : List.Forall₂ (AgreeBy T) t.trades t'.trades :=
    Except.foldlM_rel (fun _ _ _ _ _ _ => replayDirection_agree h.setup lesetup) hs.agree
      htrades htrades'
  refine ⟨hhtf'.symm, hsetup'.symm, hentry'.symm, lehtf, lesetup, leentry, hagree, ?_⟩
  obtain ⟨new, hnew, hsignal⟩ := replayDirections_extends htrades
  intro x hx
  rw [hnew, List.mem_append] at hx
  rcases hx with hx | hx
  · exact hs.signals x hx
  · exact (hsignal x hx).trans_le hanchor

theorem replayAnchors_late {anchors : List ℤ} (hlate : ∀ a ∈ anchors, T < a) {s t : ReplayState}
    (h : anchors.foldlM (replayAnchor ctx series) s = .ok t) :
    ∃ late, t.trades = s.trades ++ late ∧ ∀ x ∈ late, T < x.signalAsOfMs := by
  refine Except.foldlM_inv (P := fun u => ∃ late, u.trades = s.trades ++ late ∧ ∀ x ∈ late,
    T < x.signalAsOfMs) ?_ ⟨[], by simp⟩ h
  rintro u a v ha ⟨late, hu, hsignals⟩ hstep
  obtain ⟨-, -, -, result, -, htrades⟩ := replayAnchor_ok hstep
  obtain ⟨new, hnew, hanchor⟩ := replayDirections_extends htrades
  refine ⟨late ++ new, by rw [hnew, hu, List.append_assoc], fun x hx => ?_⟩
  rcases List.mem_append.mp hx with hx | hx
  · exact hsignals x hx
  · rw [hanchor x hx]
    exact hlate a ha

end Anchor

/-! ## The whole replay -/

section Replay

variable {X : Type} {fns : BacktestFunctions X} {T : ℤ}

theorem anchorsInRange_shared {periodMs fromMs toMs : ℤ} {setup setup' : List CandleDto}
    (h : SharedBy T periodMs setup setup') :
    ∃ early late late', anchorsInRange setup periodMs fromMs toMs = early ++ late ∧
      anchorsInRange setup' periodMs fromMs toMs = early ++ late' ∧
      (∀ a ∈ early, a ≤ T) ∧ (∀ a ∈ late, T < a) ∧ (∀ a ∈ late', T < a) := by
  obtain ⟨shared, late, late', rfl, rfl, hclose, hlate, hlate'⟩ := h
  refine ⟨anchorsInRange shared periodMs fromMs toMs, anchorsInRange late periodMs fromMs toMs,
    anchorsInRange late' periodMs fromMs toMs, ?_, ?_, ?_, ?_, ?_⟩
  · simp [anchorsInRange]
  · simp [anchorsInRange]
  · intro a ha
    obtain ⟨c, hc, rfl⟩ := List.mem_map.mp (List.mem_filter.mp ha).1
    exact hclose c hc
  · intro a ha
    obtain ⟨c, hc, rfl⟩ := List.mem_map.mp (List.mem_filter.mp ha).1
    exact hlate c hc
  · intro a ha
    obtain ⟨c, hc, rfl⟩ := List.mem_map.mp (List.mem_filter.mp ha).1
    exact hlate' c hc

theorem resolvePipSize_ok {given pipSize : Option JsNumber} {costPolicy : BacktestCostPolicy}
    (h : resolvePipSize given costPolicy = .ok pipSize) : pipSize = given := by
  unfold resolvePipSize at h
  split at h
  · split at h
    · cases h
    · cases h
      rfl
  · split at h
    · cases h
      rfl
    · cases h

/-- What a run fixes before it looks at a candle. -/
structure ReplayContext.FixedBy (ctx : ReplayContext X) (fns : BacktestFunctions X)
    (input : BacktestEngineInput) (fromMs : ℤ) : Prop where
  fns : ctx.fns = fns
  config : ctx.config = input.config
  instrument : ctx.instrument = input.instrument
  pipSize : ctx.pipSize = input.pipSize
  exitPolicy : parseExitPolicy input.exitPolicy = some ctx.exitPolicy
  /-- The periods of the replay come from the configuration's timeframes. -/
  periods : ∃ tf, input.config.timeframes = some tf ∧
    ctx.htfPeriodMs = timeframeMinutes tf.htf_bias * 60000 ∧
    ctx.setupPeriodMs = timeframeMinutes tf.setup * 60000 ∧
    ctx.entryPeriodMs = timeframeMinutes tf.entry * 60000
  fromMs : rangeBound input.fromMs = some fromMs
  toMs : rangeBound input.toMs = some ctx.toMs

theorem replayContext_ok {input : BacktestEngineInput} {ctx : ReplayContext X} {fromMs : ℤ}
    (h : replayContext fns input = .ok (ctx, fromMs)) : ctx.FixedBy fns input fromMs := by
  unfold replayContext at h
  split at h
  · rename_i hpolicy
    split at h
    · obtain ⟨pipSize, hpip, h⟩ := Except.bind_ok_iff.mp h
      split at h
      · rename_i tf htf
        split at h
        · split at h
          · rename_i hfrom
            split at h
            · rename_i hto
              split at h
              · cases h
              cases h
              exact {
                fns := rfl
                config := rfl
                instrument := rfl
                pipSize := resolvePipSize_ok hpip
                exitPolicy := hpolicy
                periods := ⟨tf, htf, rfl, rfl, rfl⟩
                fromMs := hfrom
                toMs := hto }
            · cases h
          · cases h
        · cases h
      · cases h
    · cases h
  · cases h

theorem replayContext_candles (input : BacktestEngineInput) (candles : CandleSet) :
    replayContext fns { input with candles } = replayContext fns input := rfl

theorem runBacktest_ok {input : BacktestEngineInput} {r : BacktestEngineResult}
    (h : runBacktest fns input = .ok r) :
    ∃ ctx fromMs final, replayContext fns input = .ok (ctx, fromMs) ∧
      (replayAnchors ctx fromMs (preparedSeries input.candles)).foldlM
        (replayAnchor ctx (preparedSeries input.candles)) .start = .ok final ∧
      r.trades = final.trades := by
  unfold runBacktest at h
  obtain ⟨⟨ctx, fromMs⟩, hctx, h⟩ := Except.bind_ok_iff.mp h
  obtain ⟨final, hfinal, h⟩ := Except.bind_ok_iff.mp h
  cases h
  exact ⟨ctx, fromMs, final, hctx, hfinal, rfl⟩

/-- Inputs that differ after `T` have series that share their parts up to `T`. -/
def DiffersAfter.sharedSet {input input' : BacktestEngineInput} (h : DiffersAfter T input input')
    {ctx : ReplayContext X} {fromMs : ℤ} (hctx : replayContext fns input = .ok (ctx, fromMs)) :
    SharedSet ctx T (preparedSeries input.candles) (preparedSeries input'.candles) where
  htf_bias := sharedBy_of_closedBy (by
    obtain ⟨tf, htf, hperiod, -, -⟩ := (replayContext_ok hctx).periods
    rw [hperiod]
    exact h.htf_bias tf htf)
  setup := sharedBy_of_closedBy (by
    obtain ⟨tf, htf, -, hperiod, -⟩ := (replayContext_ok hctx).periods
    rw [hperiod]
    exact h.setup tf htf)
  entry := sharedBy_of_closedBy (by
    obtain ⟨tf, htf, -, -, hperiod⟩ := (replayContext_ok hctx).periods
    rw [hperiod]
    exact h.entry tf htf)

theorem replay_split {ctx : ReplayContext X} {series : CandleSet} {early late : List ℤ}
    (hlate : ∀ a ∈ late, T < a) {final : ReplayState}
    (h : (early ++ late).foldlM (replayAnchor ctx series) .start = .ok final) :
    ∃ mid, early.foldlM (replayAnchor ctx series) .start = .ok mid ∧
      ((∀ t ∈ mid.trades, t.signalAsOfMs ≤ T) →
        final.trades.filter (fun t => decide (t.signalAsOfMs ≤ T)) = mid.trades) := by
  rw [List.foldlM_append] at h
  obtain ⟨mid, hmid, h⟩ := Except.bind_ok_iff.mp h
  refine ⟨mid, hmid, fun hsignals => ?_⟩
  obtain ⟨more, hmore, hafter⟩ := replayAnchors_late hlate h
  have hkeep : mid.trades.filter (fun t => decide (t.signalAsOfMs ≤ T)) = mid.trades :=
    List.filter_eq_self.mpr fun t ht => by simpa using hsignals t ht
  have hdrop : more.filter (fun t => decide (t.signalAsOfMs ≤ T)) = [] :=
    List.filter_eq_nil_iff.mpr fun t ht => by simpa using hafter t ht
  rw [hmore, List.filter_append, hkeep, hdrop, List.append_nil]

/-- **No look-ahead.**  For every evaluation engine and scorer, two successful runs on inputs that
    differ only in candles closing after `T` have the same trades signalled by `T`, in the same
    order, and every exit one of them settled by `T` is the exit in the other. -/
theorem no_look_ahead {input input' : BacktestEngineInput} (hdiff : DiffersAfter T input input')
    {r r' : BacktestEngineResult} (hr : runBacktest fns input = .ok r)
    (hr' : runBacktest fns input' = .ok r') :
    List.Forall₂ (AgreeBy T) (r.trades.filter (fun t => decide (t.signalAsOfMs ≤ T)))
      (r'.trades.filter (fun t => decide (t.signalAsOfMs ≤ T))) := by
  obtain ⟨ctx, fromMs, final, hctx, hfinal, htrades⟩ := runBacktest_ok hr
  obtain ⟨ctx', fromMs', final', hctx', hfinal', htrades'⟩ := runBacktest_ok hr'
  have hsame : replayContext fns input' = replayContext fns input := by
    rw [← hdiff.rest]
    exact replayContext_candles input input'.candles
  rw [hsame, hctx] at hctx'
  cases hctx'
  have hshared := hdiff.sharedSet hctx
  obtain ⟨early, late, late', hanchors, hanchors', hearly, hlate, hlate'⟩ :=
    anchorsInRange_shared hshared.setup
  -- the step limit cuts both anchor lists inside or after the shared part
  unfold replayAnchors at hfinal hfinal'
  rw [hanchors, List.take_append] at hfinal
  rw [hanchors', List.take_append] at hfinal'
  obtain ⟨mid, hmid, hkeep⟩ := replay_split (T := T)
    (fun a ha => hlate a (List.mem_of_mem_take ha)) hfinal
  obtain ⟨mid', hmid', hkeep'⟩ := replay_split (T := T)
    (fun a ha => hlate' a (List.mem_of_mem_take ha)) hfinal'
  have hstart : InStep hshared .start .start :=
    ⟨rfl, rfl, rfl, Nat.zero_le _, Nat.zero_le _, Nat.zero_le _, .nil, by simp [ReplayState.start]⟩
  have hin : InStep hshared mid mid' :=
    Except.foldlM_rel (R := InStep hshared) (fun _ _ a _ _ ha hs hrun hrun' =>
      replayAnchor_inStep hs (hearly a (List.mem_of_mem_take ha)) hrun hrun') hstart hmid hmid'
  have hsignals' := signals_of_agree hin.agree hin.signals
  rw [htrades, htrades', hkeep hin.signals, hkeep' hsignals']
  exact hin.agree

end Replay

open Numerals in
/-- An engine whose long side always passes, entering at 100 with a stop at 90 and a target at
    110. -/
def alwaysLong : BacktestFunctions Unit where
  evaluate := fun _ => .ok
    ⟨⟨true, some ⟨100, 90, some 110, none, none⟩, ()⟩, ⟨false, none, ()⟩⟩
  scoreSetupQuality := fun _ => .ok ⟨80, "A"⟩

open Numerals in
/-- Three hourly setup candles; the last one, which closes at the fourth hour, is given. -/
def hourlyInput (last : CandleDto) : BacktestEngineInput where
  config := ⟨some ⟨.h4, .h1, .m15⟩, some ⟨2, .rr, some 60⟩, []⟩
  instrument := ⟨"forex", "EURUSD"⟩
  pipSize := none
  candles := ⟨[], [⟨3600000, 100, 101, 99, 100, none⟩, ⟨7200000, 100, 102, 89, 95, none⟩, last], []⟩
  fromMs := 3600000
  toMs := 36000000
  direction := .long
  exitPolicy := .undefined
  costPolicy := .undefined

/-- The first signal is stopped out at the third hour whatever the next candle brings. -/
theorem no_look_ahead_hourly :
    let quiet := hourlyInput ⟨10800000, 95, 96, 94, 95, none⟩
    let rally := hourlyInput ⟨10800000, 95, 150, 95, 140, none⟩
    ∃ r r', runBacktest alwaysLong quiet = .ok r ∧ runBacktest alwaysLong rally = .ok r' ∧
      r.trades.length = 3 ∧
      List.Forall₂ (AgreeBy 10800000)
        (r.trades.filter (fun t => decide (t.signalAsOfMs ≤ 10800000)))
        (r'.trades.filter (fun t => decide (t.signalAsOfMs ≤ 10800000))) := by
  intro quiet rally
  have hdiff : DiffersAfter 10800000 quiet rally :=
    ⟨rfl, fun tf htf => rfl, fun tf htf => by cases htf; decide, fun tf htf => rfl⟩
  have hquiet : ((runBacktest alwaysLong quiet).toOption.map (·.trades.length)) = some 3 := by
    decide +kernel
  have hrally : ((runBacktest alwaysLong rally).toOption.map (·.trades.length)) = some 3 := by
    decide +kernel
  cases hr : runBacktest alwaysLong quiet with
  | error e =>
    rw [hr] at hquiet
    cases hquiet
  | ok r =>
    cases hr' : runBacktest alwaysLong rally with
    | error e =>
      rw [hr'] at hrally
      cases hrally
    | ok r' =>
      rw [hr] at hquiet
      exact ⟨r, r', rfl, rfl, Option.some.inj hquiet, no_look_ahead hdiff hr hr'⟩

end VeltrixEye
