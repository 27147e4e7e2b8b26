import VeltrixEye.Lib.Numerals
import VeltrixEye.Lib.Grid
import VeltrixEye.Backtest.NoLookAhead
import VeltrixEye.Strategies.Windows

/-!
# Live evaluation and replay (`backtest/engine.ts`, `backtest/service.ts`)

A replay loads one window per role for the whole range (`setupCoverageWindow`, `roleCoverageWindow`)
and evaluates, at each anchor, the growing prefix closed by then; a live evaluation at the same anchor
fetches the last `requiredWindows` candles.  On a gap-free grid both hand every role a suffix of one
series, so they differ only where a handler reads further back than the live window.
-/

namespace VeltrixEye

/-! ## Loading -/

structure BacktestRoleWindow where
  «from» : ℤ
  «to» : ℤ
  limit : ℕ

/-- Where the candles of a role start: one period more than its window before the range. -/
def coverageFrom (config : VersionConfig) (timeframes : StrategyTimeframes) (role : TimeframeRole)
    (fromMs : ℤ) : ℤ :=
  max 0 (fromMs - (requiredWindows config role + 1) * timeframes.periodMs role)

def setupCoverageWindow (config : VersionConfig) (timeframes : StrategyTimeframes)
    (fromMs toMs : ℤ) (maxHoldCandles : ℕ) : BacktestRoleWindow where
  «from» := coverageFrom config timeframes .setup fromMs
  «to» := toMs
  limit := requiredWindows config .setup + 1 + MAX_BACKTEST_STEPS + maxHoldCandles + 2

/-- The last setup close the engine will evaluate. -/
def anchorHorizonMs (setup : List CandleDto) (setupPeriodMs fromMs toMs : ℤ) : ℤ :=
  (((anchorsInRange (prepareSeries setup) setupPeriodMs fromMs toMs).take
    MAX_BACKTEST_STEPS).getLast?).getD fromMs

def roleCoverageWindow (config : VersionConfig) (timeframes : StrategyTimeframes)
    (role : TimeframeRole) (fromMs horizonMs : ℤ) : BacktestRoleWindow :=
  let periodMs := timeframes.periodMs role
  let «from» := coverageFrom config timeframes role fromMs
  let «to» := horizonMs + periodMs
  { «from», «to»
    limit := requiredWindows config role + 1 + ⌈((«to» - «from» : ℤ) : ℚ) / periodMs⌉.toNat + 1 }

def CandleSeries.load (s : CandleSeries) (w : BacktestRoleWindow) : List CandleDto :=
  s.queryCandles w.from w.to w.limit

/-- The candles of one run; a role the version does not read is left empty. -/
def loadCandles (store : MarketStore) (config : VersionConfig) (timeframes : StrategyTimeframes)
    (instrument : Instrument) (fromMs toMs : ℤ) (maxHoldCandles : ℕ) : CandleSet :=
  let setup := (store.series instrument timeframes.setup).load
    (setupCoverageWindow config timeframes fromMs toMs maxHoldCandles)
  let horizonMs := anchorHorizonMs setup (timeframes.periodMs .setup) fromMs toMs
  let role (role : TimeframeRole) : List CandleDto :=
    if requiredCoverage config.view role then
      (store.series instrument (timeframes.of role)).load
        (roleCoverageWindow config timeframes role fromMs horizonMs)
    else []
  ⟨role .htf_bias, setup, role .entry⟩

/-! ## The replay's evaluations -/

/-- The replay's view of a direction's outcome. -/
def DirectionOutcome.view (d : DirectionOutcome) : DirectionEvaluation DirectionOutcome :=
  ⟨d.passed, d.candidate.map CandidateTrade.view, d⟩

/-- The deterministic engine of one configuration beside a scorer. -/
def engineFunctions (config : VersionConfig)
    (scoreSetupQuality : M5ScoringContext DirectionOutcome → Except BacktestError SetupQualityScore) :
    BacktestFunctions DirectionOutcome where
  evaluate input :=
    match evaluate config input.candles input.asOfMs input.pipSize with
    | .ok r => .ok ⟨r.long.view, r.short.view⟩
    | .error .timeframesRequired => .error (.thrown "engine requires config.timeframes")
    | .error .riskRequired => .error (.thrown "engine requires config.risk")
  scoreSetupQuality

variable {X : Type}

/-- The evaluation made at an anchor, from the prefix pointers `s`. -/
def replayEvaluation (ctx : ReplayContext X) (series : CandleSet) (s : ReplayState) (anchor : ℤ) :
    Except BacktestError (EvaluationEngineResult X) := do
  let htfEnd := advancePrefix series.htf_bias ctx.htfPeriodMs anchor s.htfEnd
  let setupEnd := advancePrefix series.setup ctx.setupPeriodMs anchor s.setupEnd
  let entryEnd := advancePrefix series.entry ctx.entryPeriodMs anchor s.entryEnd
  assertRoleCoverage .htf_bias series.htf_bias ctx.htfPeriodMs anchor htfEnd
    (requiredCoverage ctx.config .htf_bias)
  assertRoleCoverage .entry series.entry ctx.entryPeriodMs anchor entryEnd
    (requiredCoverage ctx.config .entry)
  ctx.fns.evaluate
    { config := ctx.config
      instrument := ctx.instrument
      pipSize := ctx.pipSize
      candles :=
        ⟨series.htf_bias.take htfEnd, series.setup.take setupEnd, series.entry.take entryEnd⟩
      asOfMs := anchor }

/-! ## Prefixes -/

section Prefixes

variable {l : List CandleDto} {periodMs anchor t : ℤ} {n : ℕ}

/-- A pointer whose prefix is closed by `t`. -/
structure PrefixClosed (l : List CandleDto) (periodMs t : ℤ) (n : ℕ) : Prop where
  bound : n ≤ l.length
  closed : ∀ c ∈ l.take n, c.time + periodMs ≤ t

theorem prefixClosed_zero : PrefixClosed l periodMs t 0 := ⟨Nat.zero_le _, by simp⟩

theorem advancePrefix_take_eq (l : List CandleDto) (periodMs anchor : ℤ) (n : ℕ) :
    l.take (advancePrefix l periodMs anchor n) =
      l.take n ++ (l.drop n).takeWhile (fun c => c.time + periodMs ≤ anchor) := by
  unfold advancePrefix
  rw [List.take_add]
  congr 1
  exact (List.prefix_iff_eq_take.mp (List.takeWhile_prefix _)).symm

theorem PrefixClosed.advance (h : PrefixClosed l periodMs t n) (hanchor : anchor ≤ t) :
    PrefixClosed l periodMs t (advancePrefix l periodMs anchor n) := by
  refine ⟨advancePrefix_le h.bound, fun c hc => ?_⟩
  rw [advancePrefix_take_eq] at hc
  rcases List.mem_append.mp hc with hc | hc
  · exact h.closed c hc
  · have := List.mem_takeWhile_imp hc
    rw [decide_eq_true_eq] at this
    omega

theorem takeWhile_closed_eq (h : l.Pairwise (fun a b => a.time < b.time)) :
    l.takeWhile (fun c => c.time + periodMs ≤ anchor) =
      l.filter (fun c => c.time + periodMs ≤ anchor) := by
  induction l with
  | nil => rfl
  | cons a as ih =>
    obtain ⟨hhead, htail⟩ := List.pairwise_cons.mp h
    by_cases ha : a.time + periodMs ≤ anchor
    · rw [List.takeWhile_cons_of_pos (by simpa using ha), List.filter_cons_of_pos (by simpa using ha),
        ih htail]
    · have hnone : as.filter (fun c => decide (c.time + periodMs ≤ anchor)) = [] := by
        refine List.filter_eq_nil_iff.mpr fun b hb => ?_
        have := hhead b hb
        simp only [decide_eq_true_eq]
        omega
      rw [List.takeWhile_cons_of_neg (by simpa using ha), List.filter_cons_of_neg (by simpa using ha),
        hnone]

/-- **The prefix at an anchor** is what is closed by then. -/
theorem PrefixClosed.take_advance (h : PrefixClosed l periodMs anchor n)
    (hascending : l.Pairwise (fun a b => a.time < b.time)) :
    l.take (advancePrefix l periodMs anchor n) = l.filter (fun c => c.time + periodMs ≤ anchor) := by
  have hfirst : (l.take n).filter (fun c => decide (c.time + periodMs ≤ anchor)) = l.take n :=
    List.filter_eq_self.mpr fun c hc => by simpa using h.closed c hc
  have hsplit : l.filter (fun c => decide (c.time + periodMs ≤ anchor)) =
      (l.take n).filter (fun c => decide (c.time + periodMs ≤ anchor)) ++
        (l.drop n).filter (fun c => decide (c.time + periodMs ≤ anchor)) := by
    rw [← List.filter_append, List.take_append_drop]
  rw [advancePrefix_take_eq,
    takeWhile_closed_eq (hascending.sublist (List.drop_sublist _ _)), hsplit, hfirst]

end Prefixes

/-- The pointers of a replay state, all closed by `t`. -/
structure PointersClosed (ctx : ReplayContext X) (series : CandleSet) (t : ℤ) (s : ReplayState) :
    Prop where
  htf_bias : PrefixClosed series.htf_bias ctx.htfPeriodMs t s.htfEnd
  setup : PrefixClosed series.setup ctx.setupPeriodMs t s.setupEnd
  entry : PrefixClosed series.entry ctx.entryPeriodMs t s.entryEnd

theorem pointersClosed_run {ctx : ReplayContext X} {series : CandleSet} {t : ℤ} {pre : List ℤ}
    (hpre : ∀ a ∈ pre, a ≤ t) {s : ReplayState}
    (h : pre.foldlM (replayAnchor ctx series) .start = .ok s) : PointersClosed ctx series t s := by
  refine Except.foldlM_inv (P := PointersClosed ctx series t) ?_
    ⟨prefixClosed_zero, prefixClosed_zero, prefixClosed_zero⟩ h
  intro u a v ha hu hstep
  obtain ⟨hhtf, hsetup, hentry, -⟩ := replayAnchor_ok hstep
  refine ⟨?_, ?_, ?_⟩
  · rw [hhtf]
    exact hu.htf_bias.advance (hpre a ha)
  · rw [hsetup]
    exact hu.setup.advance (hpre a ha)
  · rw [hentry]
    exact hu.entry.advance (hpre a ha)

theorem replayAnchors_ascending (ctx : ReplayContext X) (fromMs : ℤ) {series : CandleSet}
    (h : series.setup.Pairwise (fun a b => a.time < b.time)) :
    (replayAnchors ctx fromMs series).Pairwise (· < ·) := by
  have hmap : (series.setup.map (fun c => c.time + ctx.setupPeriodMs)).Pairwise (· < ·) :=
    List.pairwise_map.mpr (h.imp fun hab => by omega)
  exact (hmap.filter _).sublist (List.take_sublist _ _)

theorem rangeBound_intCast {q ms : ℤ} (h : rangeBound (.fin (q : ℚ)) = some ms) : ms = q := by
  unfold rangeBound at h
  dsimp only at h
  split at h
  · cases h
    exact Rat.num_intCast q
  · cases h

/-! ## A gap-free grid -/

/-- A gap-free series with at least `windowCandles` candles closed by `fromMs`; the store refuses
    open times that are not positive. -/
structure CandleSeries.GapFree (s : CandleSeries) (periodMs fromMs : ℤ) (windowCandles : ℕ) : Prop
    where
  steps : Grid.Steps CandleDto.time periodMs s.candles
  positive : ∀ c ∈ s.candles, 0 < c.time
  warm : windowCandles ≤ (s.candles.filter (fun c => c.time + periodMs ≤ fromMs)).length

/-- The candles a live evaluation at `t` reads. -/
def CandleSeries.live (s : CandleSeries) (periodMs t : ℤ) (windowCandles : ℕ) : List CandleDto :=
  s.candles.filter (fun c => t - windowCandles * periodMs ≤ c.time ∧ c.time + periodMs ≤ t)

/-- The candles a replay that loaded from `from` reads at `t`. -/
def CandleSeries.replay (s : CandleSeries) («from» periodMs t : ℤ) : List CandleDto :=
  s.candles.filter (fun c => «from» ≤ c.time ∧ c.time + periodMs ≤ t)

section Grids

variable {s : CandleSeries} {periodMs fromMs t : ℤ} {windowCandles : ℕ}

theorem CandleSeries.GapFree.closed_fetch (h : s.GapFree periodMs fromMs windowCandles)
    (hperiod : 0 < periodMs) :
    closedCandles (s.queryCandles (t - windowCandles * periodMs) t windowCandles) periodMs t =
      s.live periodMs t windowCandles := by
  have hlimit := Grid.length_filter_le hperiod h.steps (a := t - windowCandles * periodMs) (b := t)
    (n := windowCandles) (by omega)
  rw [CandleSeries.closed_query hperiod hlimit, closedCandles_eq s.ascending, List.filter_filter]
  refine List.filter_congr fun c _ => ?_
  rw [Bool.decide_and]

theorem CandleSeries.GapFree.live_suffix (h : s.GapFree periodMs fromMs windowCandles)
    (hperiod : 0 < periodMs) (hfrom : fromMs ≤ t) :
    s.live periodMs t windowCandles <:+
      s.replay (max 0 (fromMs - (windowCandles + 1) * periodMs)) periodMs t := by
  have hfilter : s.live periodMs t windowCandles =
      (s.replay (max 0 (fromMs - (windowCandles + 1) * periodMs)) periodMs t).filter
        (fun c => decide (t - windowCandles * periodMs ≤ c.time)) := by
    unfold CandleSeries.live CandleSeries.replay
    rw [List.filter_filter]
    refine List.filter_congr fun c hc => ?_
    have hpos := h.positive c hc
    have hexpand : ((windowCandles : ℤ) + 1) * periodMs = windowCandles * periodMs + periodMs := by
      ring
    rw [Bool.eq_iff_iff]
    simp only [Bool.and_eq_true, decide_eq_true_eq]
    omega
  rw [hfilter]
  exact Suffix.filter_ge_suffix (s.ascending.filter _) _

/-- **The live window is filled** up to one candle that may still be open at `t`. -/
theorem CandleSeries.GapFree.live_length (h : s.GapFree periodMs fromMs windowCandles)
    (hperiod : 0 < periodMs) (hfrom : fromMs ≤ t) (hwindow : 0 < windowCandles)
    (hend : ∃ c ∈ s.candles, t ≤ c.time + periodMs) :
    windowCandles ≤ (s.live periodMs t windowCandles).length + 1 := by
  obtain ⟨hl, hfirst⟩ := Grid.first_le hperiod h.steps hwindow h.warm
  have hone : periodMs ≤ windowCandles * periodMs :=
    le_mul_of_one_le_left hperiod.le (by exact_mod_cast hwindow)
  have hlast := Grid.exists_last hperiod h.steps hl (t := t) (by omega) hend
  exact Grid.le_length_filter hperiod h.steps hl (by omega) hlast

theorem take_filter_of_mem {l : List CandleDto} (h : l.Pairwise (fun a b => a.time < b.time)) {n : ℕ}
    {c : CandleDto} (hc : c ∈ l.take n) :
    (l.take n).filter (fun a => a.time ≤ c.time) = l.filter (fun a => a.time ≤ c.time) := by
  rw [← List.take_append_drop n l, List.pairwise_append] at h
  have hrest : (l.drop n).filter (fun a => decide (a.time ≤ c.time)) = [] := by
    refine List.filter_eq_nil_iff.mpr fun a ha => ?_
    simpa using h.2.2 c hc a ha
  have hsplit : l.filter (fun a => decide (a.time ≤ c.time)) =
      (l.take n).filter (fun a => decide (a.time ≤ c.time)) ++
        (l.drop n).filter (fun a => decide (a.time ≤ c.time)) := by
    rw [← List.filter_append, List.take_append_drop]
  rw [hsplit, hrest, List.append_nil]

theorem CandleSeries.queryCandles_ascending (s : CandleSeries) («from» «to» : ℤ) (limit : ℕ) :
    (s.queryCandles «from» «to» limit).Pairwise (fun a b => a.time < b.time) :=
  (s.ascending.filter _).sublist (List.take_sublist _ _)

theorem CandleSeries.closed_load_of_mem {w : BacktestRoleWindow} (hto : t < w.to) {c : CandleDto}
    (hperiod : 0 < periodMs) (hc : c ∈ s.load w) (ht : c.time + periodMs = t) :
    (s.load w).filter (fun a => a.time + periodMs ≤ t) = s.replay w.from periodMs t := by
  have hle : ∀ l : List CandleDto, l.filter (fun a => decide (a.time + periodMs ≤ t)) =
      l.filter (fun a => decide (a.time ≤ c.time)) := by
    intro l
    refine List.filter_congr fun a _ => ?_
    rw [decide_eq_decide]
    omega
  unfold CandleSeries.load CandleSeries.queryCandles at hc ⊢
  rw [hle, take_filter_of_mem (s.ascending.filter _) hc, ← hle, List.filter_filter]
  refine List.filter_congr fun a _ => ?_
  rw [Bool.eq_iff_iff]
  simp only [Bool.and_eq_true, decide_eq_true_eq]
  omega

theorem CandleSeries.GapFree.closed_load (h : s.GapFree periodMs fromMs windowCandles)
    (hperiod : 0 < periodMs) {w : BacktestRoleWindow} (hto : t < w.to + periodMs)
    (hlimit : ⌈((w.to - w.from : ℤ) : ℚ) / periodMs⌉.toNat ≤ w.limit) :
    (s.load w).filter (fun a => a.time + periodMs ≤ t) = s.replay w.from periodMs t := by
  have hspan : w.to - w.from ≤ (⌈((w.to - w.from : ℤ) : ℚ) / periodMs⌉.toNat : ℤ) * periodMs := by
    have hpos : (0 : ℚ) < periodMs := by exact_mod_cast hperiod
    have hceil : ((w.to - w.from : ℤ) : ℚ) / periodMs ≤ ⌈((w.to - w.from : ℤ) : ℚ) / periodMs⌉ :=
      Int.le_ceil _
    have hmul : ((w.to - w.from : ℤ) : ℚ) ≤ ⌈((w.to - w.from : ℤ) : ℚ) / periodMs⌉ * periodMs :=
      (div_le_iff₀ hpos).mp hceil
    have hint : w.to - w.from ≤ ⌈((w.to - w.from : ℤ) : ℚ) / periodMs⌉ * periodMs := by
      exact_mod_cast hmul
    refine hint.trans (mul_le_mul_of_nonneg_right ?_ hperiod.le)
    exact Int.self_le_toNat _
  have hlength := Grid.length_filter_le hperiod h.steps (a := w.from) (b := w.to) hspan
  unfold CandleSeries.load CandleSeries.queryCandles
  rw [List.take_of_length_le (hlength.trans hlimit), List.filter_filter]
  refine List.filter_congr fun a _ => ?_
  rw [Bool.eq_iff_iff]
  simp only [Bool.and_eq_true, decide_eq_true_eq]
  omega

end Grids

/-! ## How much a window holds -/

/-- The keys a schema may leave absent. -/
def optionalKeys : List String := ["minGapSizePct", "minBodyRatio", "max"]

/-- A complete snapshot: the parameters are valid and every defaulted key is present, as the write
    path stores them. -/
def StoredCondition.Snapshot (c : StoredCondition) : Prop :=
  ∃ params, parseParams c.conditionType c.params = some params ∧
    ∀ key ∈ params.type.keys, key ∉ optionalKeys → JsValue.lookup c.params key ≠ .undefined

/-- The parameter that sizes a condition's window. -/
def ConditionParams.windowParam : ConditionParams → Option (String × ℕ)
  | .liquidity_sweep _ lookbackCandles _ => some ("lookbackCandles", lookbackCandles)
  | .choch _ lookbackCandles _ => some ("lookbackCandles", lookbackCandles)
  | .bos _ lookbackCandles => some ("lookbackCandles", lookbackCandles)
  | .break_retest _ maxRetestCandles _ => some ("maxRetestCandles", maxRetestCandles)
  | .order_block _ _ maxAgeCandles => some ("maxAgeCandles", maxAgeCandles)
  | .support _ lookbackCandles => some ("lookbackCandles", lookbackCandles)
  | .resistance _ lookbackCandles => some ("lookbackCandles", lookbackCandles)
  | .volatility_filter _ period _ _ => some ("period", period)
  | _ => none

theorem natField_defined {lo hi dflt n : ℕ} {v : JsValue} (h : natField lo hi dflt v = some n)
    (hv : v ≠ .undefined) : v = .number (.fin n) := by
  unfold natField at h
  split at h
  · exact absurd rfl hv
  · rename_i q
    split at h
    · rename_i hbounds
      cases h
      have hnum : ((q.num.toNat : ℕ) : ℤ) = q.num := Int.toNat_of_nonneg (by omega)
      have hq : ((q.num.toNat : ℕ) : ℚ) = q := by
        rw [← Int.cast_natCast, hnum]
        exact Rat.coe_int_num_of_den_eq_one hbounds.1
      rw [hq]
    · cases h
  · cases h

theorem windowParam_lookup {get : String → JsValue} {params : ConditionParams}
    (h : paramFields params.type get = some params) {key : String} {n : ℕ}
    (hparam : params.windowParam = some (key, n)) :
    (∃ lo hi dflt, natField lo hi dflt (get key) = some n) ∧ key ∈ params.type.keys ∧
      key ∈ windowKeys ∧ key ∉ optionalKeys := by
  cases params with
  | volatility_filter metric period min max =>
    cases hparam
    simp only [paramFields, ConditionParams.type, Option.bind_eq_bind, Option.bind_eq_some_iff] at h
    obtain ⟨metric', -, period', hperiod, min', -, max', -, h⟩ := h
    split at h
    · cases h
    · cases h
      exact ⟨⟨_, _, _, hperiod⟩, by simp [ConditionType.keys, ConditionParams.type], by decide, by decide⟩
  | liquidity_sweep | choch | bos | break_retest | order_block | support | resistance =>
    cases hparam
    simp only [paramFields, ConditionParams.type, Option.bind_eq_bind, Option.bind_eq_some_iff] at h
    repeat obtain ⟨_, _, h⟩ := h
    exact ⟨⟨_, _, _, by assumption⟩, by simp [ConditionType.keys, ConditionParams.type], by decide,
      by decide⟩
  | _ => cases hparam

theorem le_largerNeed (params : List (String × JsValue)) (need : ℚ) (key : String) :
    need ≤ largerNeed params need key := by
  unfold largerNeed
  split
  · split
    · rename_i h
      exact h.le
    · exact le_rfl
  · exact le_rfl

theorem le_foldl_largerNeed (params : List (String × JsValue)) (keys : List String) (need : ℚ) :
    need ≤ keys.foldl (largerNeed params) need := by
  induction keys generalizing need with
  | nil => exact le_rfl
  | cons key keys ih => exact (le_largerNeed params need key).trans (ih _)

theorem le_foldl_largerNeed_of_mem {params : List (String × JsValue)} {keys : List String}
    {key : String} {v : ℚ} (hv : JsValue.lookup params key = .number (.fin v)) (hkey : key ∈ keys)
    (need : ℚ) : v ≤ keys.foldl (largerNeed params) need := by
  induction keys generalizing need with
  | nil => cases hkey
  | cons k keys ih =>
    rcases List.mem_cons.mp hkey with rfl | hkey
    · refine le_trans ?_ (le_foldl_largerNeed params keys _)
      unfold largerNeed
      rw [hv]
      dsimp only
      split
      · exact le_rfl
      · rename_i h
        exact not_lt.mp h
    · exact ih hkey _

/-- The parameter that sizes the window is stored, not left to its default. -/
def StoredCondition.StatesWindow (c : StoredCondition) : Prop :=
  ∀ params key n, parseParams c.conditionType c.params = some params →
    params.windowParam = some (key, n) → JsValue.lookup c.params key ≠ .undefined

theorem StoredCondition.Snapshot.statesWindow {c : StoredCondition} (h : c.Snapshot) :
    c.StatesWindow := by
  intro params key n hparse hkey
  obtain ⟨params', hparse', hdefined⟩ := h
  cases hparse.symm.trans hparse'
  obtain ⟨-, hmem, -, hoptional⟩ := windowParam_lookup (parseParams_spec hparse).2.2 hkey
  exact hdefined key hmem hoptional

theorem reach_le_need {c : StoredCondition} {params : ConditionParams}
    (hstates : c.StatesWindow) (hparse : parseParams c.conditionType c.params = some params) :
    params.reach ≤ ⌈conditionNeed c⌉.toNat + 40 := by
  obtain ⟨htype, hpositive, hfields⟩ := parseParams_spec hparse
  have hfloor : ∀ n : ℕ, (n : ℚ) ≤ conditionNeed c → n ≤ ⌈conditionNeed c⌉.toNat := by
    intro n hn
    have hceil : ((n : ℤ) : ℚ) ≤ (⌈conditionNeed c⌉ : ℚ) := by
      push_cast
      exact hn.trans (Int.le_ceil _)
    have : (n : ℤ) ≤ ⌈conditionNeed c⌉ := by exact_mod_cast hceil
    omega
  have hparam : ∀ key n, params.windowParam = some (key, n) → n ≤ ⌈conditionNeed c⌉.toNat := by
    intro key n hkey
    obtain ⟨⟨lo, hi, dflt, hnat⟩, -, hwindow, -⟩ := windowParam_lookup hfields hkey
    have hlookup := natField_defined hnat (hstates params key n hparse hkey)
    exact hfloor n (le_foldl_largerNeed_of_mem hlookup hwindow _)
  have hname := getConditionType_name htype
  have htypeFloor : typeWindowFloor params.type.name ≤ conditionNeed c := by
    rw [← hname]
    exact le_foldl_largerNeed _ _ _
  cases params with
  | liquidity_sweep side n ratio | choch direction n displacement | bos direction n
  | support touches n | resistance touches n =>
    have hn := hparam _ n rfl
    simp only [ConditionParams.reach, MIN_CANDLES]
    omega
  | break_retest direction n tolerance =>
    have hn := hparam _ n rfl
    simp only [ConditionParams.reach]
    omega
  | order_block kind validation n =>
    have hn := hparam _ n rfl
    simp only [ConditionParams.reach, MIN_CANDLES]
    omega
  | volatility_filter metric n min max =>
    have hn := hparam _ n rfl
    simp only [ConditionParams.reach]
    omega
  | fvg kind gap mitigation =>
    have hn := hfloor 200 htypeFloor
    simp only [ConditionParams.reach, ZONE_WINDOW]
    omega
  | supply source touches | demand source touches =>
    have hn := hfloor 300 htypeFloor
    simp only [ConditionParams.reach, SD_WINDOW]
    omega
  | htf_alignment direction source =>
    have hn := hfloor 100 htypeFloor
    simp only [ConditionParams.reach]
    omega
  | rejection_candle | engulfing_candle | session_requirement | displacement | rr_requirement
  | news_filter | spread_filter =>
    simp only [ConditionParams.reach]
    omega

theorem le_foldl_max (l : List ℕ) (init : ℕ) :
    init ≤ l.foldl max init ∧ ∀ n ∈ l, n ≤ l.foldl max init := by
  induction l generalizing init with
  | nil => simp
  | cons a as ih =>
    obtain ⟨hinit, hmem⟩ := ih (max init a)
    refine ⟨(le_max_left _ _).trans hinit, fun n hn => ?_⟩
    rcases List.mem_cons.mp hn with rfl | hn
    · exact (le_max_right _ _).trans hinit
    · exact hmem n hn

theorem requiredWindows_ge (config : VersionConfig) (role : TimeframeRole) :
    MIN_WINDOW_CANDLES ≤ requiredWindows config role :=
  (le_foldl_max _ _).1

theorem conditionWindow_le {config : VersionConfig} {c : StoredCondition}
    (hc : c ∈ config.conditions) : conditionWindow c ≤ requiredWindows config c.role :=
  (le_foldl_max _ _).2 _ (List.mem_map_of_mem (List.mem_filter.mpr ⟨hc, by simp⟩))

theorem reach_lt_window {config : VersionConfig} {c : StoredCondition} {params : ConditionParams}
    (hc : c ∈ config.conditions) (hstates : c.StatesWindow)
    (hparse : parseParams c.conditionType c.params = some params)
    (hfits : anchorOffsetOf c.params + params.reach < MAX_WINDOW_CANDLES) :
    anchorOffsetOf c.params + params.reach < requiredWindows config c.role := by
  refine lt_of_lt_of_le ?_ (conditionWindow_le hc)
  have hneed := reach_le_need hstates hparse
  unfold conditionWindow
  simp only [WINDOW_MARGIN]
  omega

/-! ## One anchor, live and replayed -/

/-- The input of a backtest run over what the service loads. -/
def backtestInput (store : MarketStore) (config : VersionConfig) (timeframes : StrategyTimeframes)
    (instrument : Instrument) (fromMs toMs : ℤ) (maxHoldCandles : ℕ) (direction : BacktestDirection)
    (exitPolicy costPolicy : JsValue) : BacktestEngineInput where
  config := config.view
  instrument := instrument
  pipSize := store.pipSize instrument
  candles := loadCandles store config timeframes instrument fromMs toMs maxHoldCandles
  fromMs := .fin (fromMs : ℚ)
  toMs := .fin (toMs : ℚ)
  direction := direction
  exitPolicy := exitPolicy
  costPolicy := costPolicy

/-- `runBacktest` evaluates `result` at anchor `t`. -/
def EvaluatesAt (fns : BacktestFunctions X) (input : BacktestEngineInput) (t : ℤ)
    (result : EvaluationEngineResult X) : Prop :=
  ∃ ctx fromMs pre post s, replayContext fns input = .ok (ctx, fromMs) ∧
    replayAnchors ctx fromMs (preparedSeries input.candles) = pre ++ t :: post ∧
    pre.foldlM (replayAnchor ctx (preparedSeries input.candles)) .start = .ok s ∧
    replayEvaluation ctx (preparedSeries input.candles) s t = .ok result

/-- The two handlers that smooth over the whole series give one verdict on two series. -/
def AtrAgrees (params : ConditionParams) (A B : List CandleDto) : Prop :=
  match params with
  | .displacement direction atrPeriod minAtrMultiple =>
    displaced direction atrPeriod minAtrMultiple A = displaced direction atrPeriod minAtrMultiple B
  | .volatility_filter .atr period min max =>
    (atrWilder A period).map (fun value => withinBand value min max) =
      (atrWilder B period).map (fun value => withinBand value min max)
  | _ => True

theorem verdict_inj {a b : Bool} : verdict a = verdict b ↔ a = b := by
  cases a <;> cases b <;> decide

/-- The displacement handler has one status in both directions exactly when the displacement is
    judged alike. -/
theorem displacement_agrees_iff (direction : PatternDirection) (atrPeriod : ℕ) (minAtrMultiple : ℚ)
    {ctx ctx' : Direction → HandlerContext} (hdirection : ∀ d, (ctx d).direction = d)
    (hdirection' : ∀ d, (ctx' d).direction = d) {A B : List CandleDto}
    (hA : ∀ d, roleCandles (ctx d) = A) (hB : ∀ d, roleCandles (ctx' d) = B) :
    (∀ d, displacement direction atrPeriod minAtrMultiple (ctx d) =
      displacement direction atrPeriod minAtrMultiple (ctx' d)) ↔
      displaced direction atrPeriod minAtrMultiple A =
        displaced direction atrPeriod minAtrMultiple B := by
  constructor
  · intro h
    -- a direction the parameter admits
    obtain ⟨d, hd⟩ : ∃ d, dirMatches direction d = true := by
      cases direction with
      | bullish => exact ⟨.long, rfl⟩
      | bearish => exact ⟨.short, rfl⟩
      | either => exact ⟨.long, rfl⟩
    have hstatus := h d
    unfold displacement at hstatus
    rw [hA, hB, hdirection, hdirection', hd] at hstatus
    generalize displaced direction atrPeriod minAtrMultiple A = judged at hstatus ⊢
    generalize displaced direction atrPeriod minAtrMultiple B = judged' at hstatus ⊢
    rcases judged with _ | a <;> rcases judged' with _ | b
    · rfl
    · cases b <;> cases hstatus
    · cases a <;> cases hstatus
    · simp only [Bool.and_true, verdict_inj] at hstatus
      rw [hstatus]
  · intro h d
    unfold displacement
    rw [hA, hB, hdirection, hdirection', h]

theorem volatility_agrees_iff (period : ℕ) (min : ℚ) (max : Option ℚ) {ctx ctx' : HandlerContext} :
    volatilityFilter .atr period min max ctx = volatilityFilter .atr period min max ctx' ↔
      (atrWilder (roleCandles ctx) period).map (fun value => withinBand value min max) =
        (atrWilder (roleCandles ctx') period).map (fun value => withinBand value min max) := by
  unfold volatilityFilter volatilityOf
  rcases atrWilder (roleCandles ctx) period with _ | a <;>
    rcases atrWilder (roleCandles ctx') period with _ | b
  · simp
  · simp only [Option.map_none, Option.map_some, reduceCtorEq, iff_false, verdict]
    split <;> simp
  · simp only [Option.map_none, Option.map_some, reduceCtorEq, iff_false, verdict]
    split <;> simp
  · simp only [Option.map_some, Option.some.injEq]
    exact verdict_inj

/-- One condition on a suffix of its series and on the series, in both directions. -/
theorem conditionStatus_agrees_iff {ctx ctx' : Direction → DirectionContext}
    (hsame : ∀ d, (ctx d).SameInputs (ctx' d)) (hdirection : ∀ d, (ctx d).direction = d)
    {c : StoredCondition} {params : ConditionParams}
    (hparse : parseParams c.conditionType c.params = some params) {A B : List CandleDto}
    (hA : ∀ d, (ctx d).closed.of c.role = A) (hB : ∀ d, (ctx' d).closed.of c.role = B)
    (hsuffix : A <:+ B)
    (hreach : params.unbounded = false → anchorOffsetOf c.params + params.reach ≤ A.length) :
    (∀ d, conditionStatus (ctx d) c = conditionStatus (ctx' d) c) ↔
      AtrAgrees params (A.rdrop (anchorOffsetOf c.params)) (B.rdrop (anchorOffsetOf c.params)) := by
  by_cases hbounded : params.unbounded = false
  · have hall : ∀ d, conditionStatus (ctx d) c = conditionStatus (ctx' d) c := by
      intro d
      refine conditionStatus_local (hsame d) ?_
      rw [hA, hB]
      refine ⟨hsuffix, .inr fun params' hparse' => ?_⟩
      cases hparse.symm.trans hparse'
      exact ⟨hbounded, hreach hbounded⟩
    refine ⟨fun _ => ?_, fun _ => hall⟩
    cases params with
    | displacement => cases hbounded
    | volatility_filter metric =>
      cases metric with
      | atr => cases hbounded
      | body_range => trivial
    | _ => trivial
  · have hseries : ∀ d, handlerSeries params ((ctx d).handlerContext c) =
        A.rdrop (anchorOffsetOf c.params) := by
      intro d
      rw [handlerSeries_eq (ctx d) hparse, hA]
    have hseries' : ∀ d, handlerSeries params ((ctx' d).handlerContext c) =
        B.rdrop (anchorOffsetOf c.params) := by
      intro d
      rw [handlerSeries_eq (ctx' d) hparse, hB]
    simp only [conditionStatus, hparse]
    cases params with
    | displacement direction atrPeriod minAtrMultiple =>
      refine displacement_agrees_iff direction atrPeriod minAtrMultiple (fun d => hdirection d)
        (fun d => ?_) hseries hseries'
      exact (hsame d).direction.symm.trans (hdirection d)
    | volatility_filter metric period min max =>
      cases metric with
      | atr =>
        have h : ∀ d, volatilityFilter .atr period min max ((ctx d).handlerContext c) =
            volatilityFilter .atr period min max ((ctx' d).handlerContext c) ↔
            AtrAgrees (.volatility_filter .atr period min max) (A.rdrop (anchorOffsetOf c.params))
              (B.rdrop (anchorOffsetOf c.params)) := by
          intro d
          rw [volatility_agrees_iff, show roleCandles ((ctx d).handlerContext c) = _ from hseries d,
            show roleCandles ((ctx' d).handlerContext c) = _ from hseries' d]
          rfl
        exact ⟨fun hall => (h .long).mp (hall .long), fun hagrees d => (h d).mpr hagrees⟩
      | body_range => exact absurd rfl hbounded
    | _ => exact absurd rfl hbounded

/-- The version reads the candles of the role. -/
def VersionConfig.Reads (config : VersionConfig) (role : TimeframeRole) : Prop :=
  role = .setup ∨ requiredCoverage config.view role = true

theorem reads_of_condition {config : VersionConfig} {c : StoredCondition}
    (hc : c ∈ config.conditions) : config.Reads c.role := by
  obtain ⟨group, hgroup, hc⟩ := List.mem_flatMap.mp hc
  right
  simp only [requiredCoverage, VersionConfig.view, List.any_map, List.any_eq_true]
  exact ⟨group, hgroup, by simpa using ⟨c, hc, rfl⟩⟩

theorem assertRoleCoverage_ok {role : TimeframeRole} {series : List CandleDto}
    {periodMs anchor : ℤ} {«end» : ℕ}
    (h : assertRoleCoverage role series periodMs anchor «end» true = .ok ()) :
    ∃ last, series.getLast? = some last ∧
      ¬ («end» = series.length ∧ last.time + periodMs < anchor) := by
  unfold assertRoleCoverage at h
  rw [if_neg (by simp)] at h
  split at h
  · cases h
  rename_i last hlast
  split at h
  · cases h
  · rename_i hcovered
    exact ⟨last, hlast, hcovered⟩

theorem exists_close_ge {series : List CandleDto} {periodMs anchor : ℤ} {n : ℕ}
    (hascending : series.Pairwise (fun a b => a.time < b.time))
    (hclosed : PrefixClosed series periodMs anchor n) {role : TimeframeRole}
    (h : assertRoleCoverage role series periodMs anchor (advancePrefix series periodMs anchor n)
      true = .ok ()) : ∃ c ∈ series, anchor ≤ c.time + periodMs := by
  obtain ⟨last, hlast, hcovered⟩ := assertRoleCoverage_ok h
  by_contra hnone
  push Not at hnone
  refine hcovered ⟨?_, hnone last (List.mem_of_getLast? hlast)⟩
  have hall : series.take (advancePrefix series periodMs anchor n) = series := by
    rw [hclosed.take_advance hascending]
    exact List.filter_eq_self.mpr fun c hc => by simpa using (hnone c hc).le
  have hlength := congrArg List.length hall
  rw [List.length_take] at hlength
  have hle : advancePrefix series periodMs anchor n ≤ series.length :=
    advancePrefix_le hclosed.bound
  omega

section Anchors

variable {store : MarketStore} {config : VersionConfig} {timeframes : StrategyTimeframes}
  {instrument : Instrument} {fromMs toMs t : ℤ} {maxHoldCandles : ℕ}

variable (store config timeframes instrument fromMs toMs maxHoldCandles) in
theorem loadCandles_ascending (role : TimeframeRole) :
    ((loadCandles store config timeframes instrument fromMs toMs maxHoldCandles).of role).Pairwise
      (fun a b => a.time < b.time) := by
  cases role with
  | setup => exact CandleSeries.queryCandles_ascending _ _ _ _
  | htf_bias =>
    simp only [loadCandles, CandleSet.of]
    split
    · exact CandleSeries.queryCandles_ascending _ _ _ _
    · exact List.Pairwise.nil
  | entry =>
    simp only [loadCandles, CandleSet.of]
    split
    · exact CandleSeries.queryCandles_ascending _ _ _ _
    · exact List.Pairwise.nil

theorem preparedSeries_load :
    preparedSeries (loadCandles store config timeframes instrument fromMs toMs maxHoldCandles) =
      loadCandles store config timeframes instrument fromMs toMs maxHoldCandles := by
  set loaded := loadCandles store config timeframes instrument fromMs toMs maxHoldCandles
  have h : ∀ role, prepareSeries (loaded.of role) = loaded.of role := fun role =>
    Series.ofEntries_eq_self (loadCandles_ascending _ _ _ _ _ _ _ role)
  have hhtf := h .htf_bias
  have hsetup := h .setup
  have hentry := h .entry
  simp only [CandleSet.of] at hhtf hsetup hentry
  simp only [preparedSeries, hhtf, hsetup, hentry]

theorem le_anchorHorizonMs {setup : List CandleDto} {setupPeriodMs : ℤ}
    (hascending : setup.Pairwise (fun a b => a.time < b.time))
    (ht : t ∈ (anchorsInRange setup setupPeriodMs fromMs toMs).take MAX_BACKTEST_STEPS) :
    t ≤ anchorHorizonMs setup setupPeriodMs fromMs toMs := by
  unfold anchorHorizonMs
  rw [show prepareSeries setup = setup from Series.ofEntries_eq_self hascending]
  set anchors := (anchorsInRange setup setupPeriodMs fromMs toMs).take MAX_BACKTEST_STEPS
    with hanchors
  have hsorted : anchors.Pairwise (· < ·) := by
    have hmap : (setup.map (fun c => c.time + setupPeriodMs)).Pairwise (· < ·) :=
      List.pairwise_map.mpr (hascending.imp fun hab => by omega)
    exact (hmap.filter _).sublist (List.take_sublist _ _)
  rcases List.eq_nil_or_concat anchors with hnil | ⟨front, last, hlast⟩
  · rw [hnil] at ht
    cases ht
  · rw [List.concat_eq_append] at hlast
    rw [hlast, List.getLast?_concat, Option.getD_some]
    rw [hlast] at ht hsorted
    rcases List.mem_append.mp ht with hmem | hmem
    · exact ((List.pairwise_append.mp hsorted).2.2 t hmem last (by simp)).le
    · rw [List.mem_singleton.mp hmem]

/-- What the replay evaluates at an anchor: the outcome of the engine on everything the store holds
    from the load's start to the anchor, for the roles the version reads. -/
theorem evaluatesAt_spec {fns : BacktestFunctions X} {direction : BacktestDirection}
    {exitPolicy costPolicy : JsValue} {result : EvaluationEngineResult X}
    (htimeframes : config.timeframes = some timeframes)
    (hgrid : ∀ role, (store.series instrument (timeframes.of role)).GapFree
      (timeframes.periodMs role) fromMs (requiredWindows config role))
    (h : EvaluatesAt fns (backtestInput store config timeframes instrument fromMs toMs
      maxHoldCandles direction exitPolicy costPolicy) t result) :
    ∃ candles : CandleSet, fromMs ≤ t ∧
      fns.evaluate ⟨config.view, instrument, store.pipSize instrument, candles, t⟩ = .ok result ∧
      ∀ role, config.Reads role →
        closedCandles (candles.of role) (timeframes.periodMs role) t =
          (store.series instrument (timeframes.of role)).replay
            (coverageFrom config timeframes role fromMs) (timeframes.periodMs role) t ∧
        ∃ c ∈ (store.series instrument (timeframes.of role)).candles,
          t ≤ c.time + timeframes.periodMs role := by
  obtain ⟨ctx, from', pre, post, s, hctx, hanchors, hpre, heval⟩ := h
  obtain ⟨tf, htf, hhtfPeriod, hsetupPeriod, hentryPeriod⟩ := (replayContext_ok hctx).periods
  obtain ⟨hfns, hconfig, hinstrument, hpip, -, -, hfrom, hto⟩ := replayContext_ok hctx
  obtain rfl := rangeBound_intCast hfrom
  have htoMs := rangeBound_intCast hto
  obtain rfl : tf = timeframes := Option.some.inj (htf.symm.trans htimeframes)
  replace hconfig : ctx.config = config.view := hconfig
  replace hhtfPeriod : ctx.htfPeriodMs = tf.periodMs .htf_bias := hhtfPeriod
  replace hsetupPeriod : ctx.setupPeriodMs = tf.periodMs .setup := hsetupPeriod
  replace hentryPeriod : ctx.entryPeriodMs = tf.periodMs .entry := hentryPeriod
  rw [show (backtestInput store config tf instrument from' toMs maxHoldCandles direction exitPolicy
    costPolicy).candles = loadCandles store config tf instrument from' toMs maxHoldCandles from rfl,
    preparedSeries_load] at hanchors hpre heval
  set loaded := loadCandles store config tf instrument from' toMs maxHoldCandles with hloaded
  have hascending := loadCandles_ascending store config tf instrument from' toMs maxHoldCandles
  -- the anchor is a setup close in range
  have ht : t ∈ replayAnchors ctx from' loaded := by
    rw [hanchors]
    simp
  have hsorted := replayAnchors_ascending ctx from' (hascending .setup)
  have hpreLe : ∀ a ∈ pre, a ≤ t := by
    intro a ha
    rw [hanchors] at hsorted
    exact ((List.pairwise_append.mp hsorted).2.2 a ha t List.mem_cons_self).le
  obtain ⟨hclose, hrange⟩ := List.mem_filter.mp (List.mem_of_mem_take ht)
  obtain ⟨signal, hsignal, hsignalClose⟩ := List.mem_map.mp hclose
  rw [decide_eq_true_eq] at hrange
  -- the prefixes are what is closed by the anchor
  have hpointers := pointersClosed_run hpreLe hpre
  have hhtfPointer : PrefixClosed loaded.htf_bias (tf.periodMs .htf_bias) t s.htfEnd := by
    rw [← hhtfPeriod]
    exact hpointers.htf_bias
  have hsetupPointer : PrefixClosed loaded.setup (tf.periodMs .setup) t s.setupEnd := by
    rw [← hsetupPeriod]
    exact hpointers.setup
  have hentryPointer : PrefixClosed loaded.entry (tf.periodMs .entry) t s.entryEnd := by
    rw [← hentryPeriod]
    exact hpointers.entry
  have hclosedPrefix : ∀ (l : List CandleDto) (periodMs : ℤ) (n : ℕ),
      l.Pairwise (fun a b => a.time < b.time) → PrefixClosed l periodMs t n →
      closedCandles (l.take (advancePrefix l periodMs t n)) periodMs t =
        l.filter (fun c => c.time + periodMs ≤ t) := by
    intro l periodMs n hl hprefix
    rw [PrefixClosed.take_advance hprefix hl, closedCandles_eq (hl.filter _), List.filter_filter]
    simp
  rw [hsetupPeriod] at hsignalClose
  have hhorizon : t ≤ anchorHorizonMs loaded.setup (tf.periodMs .setup) from' toMs := by
    refine le_anchorHorizonMs (hascending .setup) ?_
    rw [← htoMs, ← hsetupPeriod]
    exact ht
  have hrole : ∀ role, (store.series instrument (tf.of role)).GapFree (tf.periodMs role) from'
      (requiredWindows config role) →
      ((store.series instrument (tf.of role)).load (roleCoverageWindow config tf role from'
        (anchorHorizonMs loaded.setup (tf.periodMs .setup) from' toMs))).filter
          (fun c => c.time + tf.periodMs role ≤ t) =
      (store.series instrument (tf.of role)).replay (coverageFrom config tf role from')
        (tf.periodMs role) t := by
    intro role hgapFree
    have hperiod := tf.periodMs_pos role
    refine hgapFree.closed_load hperiod ?_ ?_
    · simp only [roleCoverageWindow]
      omega
    · simp only [roleCoverageWindow]
      omega
  unfold replayEvaluation at heval
  obtain ⟨⟨⟩, hhtfCovered, heval⟩ := Except.bind_ok_iff.mp heval
  obtain ⟨⟨⟩, hentryCovered, heval⟩ := Except.bind_ok_iff.mp heval
  rw [hfns, hconfig, hinstrument, hpip] at heval
  refine ⟨_, hrange.1, heval, fun role hreads => ?_⟩
  cases role with
  | setup =>
    refine ⟨?_, signal, ?_, hsignalClose.ge⟩
    · rw [hsetupPeriod]
      refine (hclosedPrefix _ _ _ (hascending .setup) hsetupPointer).trans ?_
      exact CandleSeries.closed_load_of_mem (htoMs ▸ hrange.2) (tf.periodMs_pos .setup) hsignal
        hsignalClose
    · exact (List.mem_filter.mp (List.mem_of_mem_take hsignal)).1
  | htf_bias =>
    have hrequired := hreads.resolve_left (by decide)
    have hload : loaded.htf_bias = (store.series instrument tf.htf_bias).load
        (roleCoverageWindow config tf .htf_bias from'
          (anchorHorizonMs loaded.setup (tf.periodMs .setup) from' toMs)) := by
      simp only [hloaded, loadCandles, hrequired, if_true]
      rfl
    constructor
    · rw [hhtfPeriod]
      refine (hclosedPrefix _ _ _ (hascending .htf_bias) hhtfPointer).trans ?_
      rw [show loaded.of .htf_bias = _ from hload]
      exact hrole .htf_bias (hgrid .htf_bias)
    · rw [hconfig, hrequired, hhtfPeriod] at hhtfCovered
      obtain ⟨c, hc, hge⟩ := exists_close_ge (hascending .htf_bias) hhtfPointer hhtfCovered
      rw [show loaded.of .htf_bias = _ from hload] at hc
      exact ⟨c, (List.mem_filter.mp (List.mem_of_mem_take hc)).1, hge⟩
  | entry =>
    have hrequired := hreads.resolve_left (by decide)
    have hload : loaded.entry = (store.series instrument tf.entry).load
        (roleCoverageWindow config tf .entry from'
          (anchorHorizonMs loaded.setup (tf.periodMs .setup) from' toMs)) := by
      simp only [hloaded, loadCandles, hrequired, if_true]
      rfl
    constructor
    · rw [hentryPeriod]
      refine (hclosedPrefix _ _ _ (hascending .entry) hentryPointer).trans ?_
      rw [show loaded.of .entry = _ from hload]
      exact hrole .entry (hgrid .entry)
    · rw [hconfig, hrequired, hentryPeriod] at hentryCovered
      obtain ⟨c, hc, hge⟩ := exists_close_ge (hascending .entry) hentryPointer hentryCovered
      rw [show loaded.of .entry = _ from hload] at hc
      exact ⟨c, (List.mem_filter.mp (List.mem_of_mem_take hc)).1, hge⟩

end Anchors

theorem engineFunctions_ok {config : VersionConfig}
    {scoreSetupQuality : M5ScoringContext DirectionOutcome → Except BacktestError SetupQualityScore}
    {input : EvaluationEngineInput} {result : EvaluationEngineResult DirectionOutcome}
    (h : (engineFunctions config scoreSetupQuality).evaluate input = .ok result) :
    ∃ r, evaluate config input.candles input.asOfMs input.pipSize = .ok r ∧
      ∀ d, result.of d = (r.of d).view := by
  simp only [engineFunctions] at h
  split at h
  · rename_i r hr
    cases h
    refine ⟨r, hr, fun d => ?_⟩
    cases d <;> rfl
  · cases h
  · cases h

/-- **Live evaluation and replay.**  On a gap-free grid, for a published version none of whose bounded
conditions reaches as far back as the store's limit, a live evaluation at a replayed anchor has the
outcomes of the replay exactly when the conditions that smooth the average true range over the whole
series judge the last candle alike on the live window and on the replayed prefix. -/
theorem live_agrees_with_replay_iff (store : MarketStore) (version : StrategyVersion)
    (timeframes : StrategyTimeframes) (htimeframes : version.config.timeframes = some timeframes)
    (scoreSetupQuality : M5ScoringContext DirectionOutcome → Except BacktestError SetupQualityScore)
    (fromMs toMs : ℤ) (maxHoldCandles : ℕ) (direction : BacktestDirection)
    (exitPolicy costPolicy : JsValue) (t : ℤ) (out : List InstrumentEvaluation)
    (hlive : evaluateVersion store version t = .ok out) (e : InstrumentEvaluation) (he : e ∈ out)
    (result : EvaluationEngineResult DirectionOutcome)
    (hreplay : EvaluatesAt (engineFunctions version.config scoreSetupQuality)
      (backtestInput store version.config timeframes e.instrument fromMs toMs maxHoldCandles
        direction exitPolicy costPolicy) t result)
    (hpublished : ∀ c ∈ version.config.conditions, c.Snapshot)
    (hgrid : ∀ role, (store.series e.instrument (timeframes.of role)).GapFree
      (timeframes.periodMs role) fromMs (requiredWindows version.config role))
    (hfits : ∀ c ∈ version.config.conditions, ∀ params,
      parseParams c.conditionType c.params = some params → params.unbounded = false →
        anchorOffsetOf c.params + params.reach < MAX_WINDOW_CANDLES) :
    (∀ d, result.of d = (e.directions.of d).view) ↔
      ∀ c ∈ version.config.conditions, ∀ params,
        parseParams c.conditionType c.params = some params →
        AtrAgrees params
          (((store.series e.instrument (timeframes.of c.role)).live (timeframes.periodMs c.role) t
            (requiredWindows version.config c.role)).rdrop (anchorOffsetOf c.params))
          (((store.series e.instrument (timeframes.of c.role)).replay
            (coverageFrom version.config timeframes c.role fromMs) (timeframes.periodMs c.role)
            t).rdrop (anchorOffsetOf c.params)) := by
  obtain ⟨tf, risk, htf, hrisk, heval⟩ := evaluateVersion_ok hlive
  obtain rfl : tf = timeframes := Option.some.inj (htf.symm.trans htimeframes)
  obtain ⟨candles, hfrom, hevaluated, hreads⟩ := evaluatesAt_spec htimeframes hgrid hreplay
  obtain ⟨r, hr, hresult⟩ := engineFunctions_ok hevaluated
  set pipSize := store.pipSize e.instrument
  set config := version.config
  set live := fun d => directionContext risk tf (store.readRoles config tf e.instrument t) t pipSize d
    with hliveDef
  set replayed := fun d => directionContext risk tf candles t pipSize d with hreplayedDef
  -- each role the version reads: the live candles are a long suffix of the replayed ones
  have hliveOf : ∀ d role, (live d).closed.of role =
      (store.series e.instrument (tf.of role)).live (tf.periodMs role) t
        (requiredWindows config role) := by
    intro d role
    refine (closedSet_of tf _ t role).trans ?_
    rw [MarketStore.readRoles_of]
    exact (hgrid role).closed_fetch (tf.periodMs_pos role)
  have hreplayedOf : ∀ d role, config.Reads role → (replayed d).closed.of role =
      (store.series e.instrument (tf.of role)).replay (coverageFrom config tf role fromMs)
        (tf.periodMs role) t := by
    intro d role hrole
    exact (closedSet_of tf _ t role).trans (hreads role hrole).1
  have hsuffix : ∀ role, (store.series e.instrument (tf.of role)).live (tf.periodMs role) t
      (requiredWindows config role) <:+
      (store.series e.instrument (tf.of role)).replay (coverageFrom config tf role fromMs)
        (tf.periodMs role) t := fun role =>
    (hgrid role).live_suffix (tf.periodMs_pos role) hfrom
  have hlength : ∀ role, config.Reads role → requiredWindows config role ≤
      ((store.series e.instrument (tf.of role)).live (tf.periodMs role) t
        (requiredWindows config role)).length + 1 := by
    intro role hrole
    have hmin : 0 < MIN_WINDOW_CANDLES := by decide
    exact (hgrid role).live_length (tf.periodMs_pos role) hfrom
      (hmin.trans_le (requiredWindows_ge config role)) (hreads role hrole).2
  have hsetup : (live .long).closed.setup <:+ (replayed .long).closed.setup := by
    rw [show (live .long).closed.setup = _ from hliveOf .long .setup,
      show (replayed .long).closed.setup = _ from hreplayedOf .long .setup (.inl rfl)]
    exact hsuffix .setup
  have hsetupLength : CANDIDATE_WINDOW ≤ (live .long).closed.setup.length := by
    rw [show (live .long).closed.setup = _ from hliveOf .long .setup]
    have hwindow := hlength .setup (.inl rfl)
    have hmin := requiredWindows_ge config .setup
    have hcandidate : CANDIDATE_WINDOW < MIN_WINDOW_CANDLES := by decide
    omega
  have hsame : ∀ d, (live d).SameInputs (replayed d) := fun d =>
    ⟨rfl, rfl, deriveCandidate_local risk hsetup (.inr hsetupLength) pipSize d⟩
  have hlast : ∀ d, (live d).closed.setup.getLast? = (replayed d).closed.setup.getLast? := by
    intro d
    have hpos : 0 < CANDIDATE_WINDOW := by decide
    exact Suffix.getLast?_eq_of_suffix hsetup
      (List.ne_nil_of_length_pos (hpos.trans_le hsetupLength))
  -- the outcomes agree exactly when every condition has one status
  have hstatus : (∀ d, result.of d = (e.directions.of d).view) ↔
      ∀ d, ∀ c ∈ config.conditions,
        conditionStatus (live d) c = conditionStatus (replayed d) c := by
    refine forall_congr' fun d => ?_
    rw [hresult d, evaluate_ok htimeframes hrisk hr d, evaluate_ok htimeframes hrisk (heval e he) d,
      ← evaluateDirection_eq_iff config (hsame d) (pipBufferUnresolved risk pipSize) (hlast d)]
    constructor
    · intro h
      exact (congrArg DirectionEvaluation.outcomes h).symm
    · intro h
      exact congrArg DirectionOutcome.view h.symm
  have hcondition : ∀ c ∈ config.conditions, ∀ params,
      parseParams c.conditionType c.params = some params →
      ((∀ d, conditionStatus (live d) c = conditionStatus (replayed d) c) ↔
        AtrAgrees params
          (((store.series e.instrument (tf.of c.role)).live (tf.periodMs c.role) t
            (requiredWindows config c.role)).rdrop (anchorOffsetOf c.params))
          (((store.series e.instrument (tf.of c.role)).replay (coverageFrom config tf c.role fromMs)
            (tf.periodMs c.role) t).rdrop (anchorOffsetOf c.params))) := by
    intro c hc params hparse
    refine conditionStatus_agrees_iff hsame (fun _ => rfl) hparse (fun d => hliveOf d c.role)
      (fun d => hreplayedOf d c.role (reads_of_condition hc)) (hsuffix c.role) fun hbounded => ?_
    have hwindow := hlength c.role (reads_of_condition hc)
    have hreach := reach_lt_window hc (hpublished c hc).statesWindow hparse (hfits c hc params hparse hbounded)
    omega
  rw [hstatus]
  constructor
  · intro h c hc params hparse
    exact (hcondition c hc params hparse).mp fun d => h d c hc
  · intro h d c hc
    obtain ⟨params, hparse, -⟩ := hpublished c hc
    exact (hcondition c hc params hparse).mpr (h c hc params hparse) d

/-! ## One candle beyond the live window -/

/-- A displacement of one average true range on the setup timeframe. -/
def sampleDisplacement : StoredCondition where
  conditionType := "displacement"
  classification := .required
  timeframeRole := .role .setup
  params := [("direction", .string "bullish"), ("atrPeriod", .number (.fin 14)),
    ("minAtrMultiple", .number (.fin 1)), ("anchorOffsetCandles", .number (.fin 0))]

/-- A published version with that one condition. -/
def displacementVersion : StrategyVersion where
  status := .published
  config :=
    { timeframes := some ⟨.h4, .h1, .m15⟩
      marketScope := some (.instruments [sampleInstrument])
      sessionFilters := []
      risk := some sampleSessionRisk
      ruleGroups := [⟨"trigger", .and, [sampleDisplacement]⟩] }

/-- The start of the replayed range: six hundred hours after the epoch. -/
def sampleFromMs : ℤ := 2160000000

/-- A gap-free series of 121 candles that ends at the start of the range; the candles after the first
    rise from 10 to 11 and the first stays at `price`. -/
def steadyCandles (price : ℚ) (periodMs : ℤ) : List CandleDto :=
  ⟨sampleFromMs - 121 * periodMs, .fin price, .fin price, .fin price, .fin price, none⟩ ::
    (List.range 120).map (fun i : ℕ =>
      ⟨sampleFromMs - (120 - i) * periodMs, .fin 10, .fin 11, .fin 10, .fin 11, none⟩)

theorem steadyCandles_ascending (price : ℚ) {periodMs : ℤ} (h : 0 < periodMs) :
    (steadyCandles price periodMs).Pairwise (fun a b => a.time < b.time) := by
  refine List.pairwise_cons.mpr ⟨?_, List.pairwise_map.mpr ?_⟩
  · intro c hc
    obtain ⟨i, -, rfl⟩ := List.mem_map.mp hc
    have hi : 0 ≤ (i : ℤ) * periodMs := mul_nonneg (Int.natCast_nonneg i) h.le
    simp only [sub_mul]
    omega
  · refine List.pairwise_lt_range.imp fun {i j} hij => ?_
    have hlt : (i : ℤ) * periodMs < j * periodMs :=
      mul_lt_mul_of_pos_right (by exact_mod_cast hij) h
    simp only [sub_mul]
    omega

/-- The store of that series on every timeframe. -/
def steadyStore (price : ℚ) : MarketStore where
  instruments := [sampleInstrument]
  series := fun _ timeframe =>
    ⟨steadyCandles price (timeframeMinutes timeframe * 60000),
      steadyCandles_ascending price (mul_pos (timeframeMinutes_pos timeframe) (by decide))⟩
  pipSize := fun _ => none

open Numerals in
/-- A scorer that grades every setup alike. -/
def flatScore (_ : M5ScoringContext DirectionOutcome) : Except BacktestError SetupQualityScore :=
  .ok ⟨80, "A"⟩

/-- The replay of the hour that starts at the range, for one store. -/
def steadyInput (price : ℚ) : BacktestEngineInput :=
  backtestInput (steadyStore price) displacementVersion.config ⟨.h4, .h1, .m15⟩ sampleInstrument
    sampleFromMs (sampleFromMs + 3600000) 10 .both .undefined .undefined

/-- The evaluation of the replay's first anchor. -/
def steadyReplay (price : ℚ) : Except BacktestError (EvaluationEngineResult DirectionOutcome) := do
  let (ctx, _) ← replayContext (engineFunctions displacementVersion.config flatScore)
    (steadyInput price)
  replayEvaluation ctx (preparedSeries (steadyInput price).candles) .start sampleFromMs

/-- The anchors of that replay. -/
def steadyAnchors (price : ℚ) : Except BacktestError (List ℤ) := do
  let (ctx, fromMs) ← replayContext (engineFunctions displacementVersion.config flatScore)
    (steadyInput price)
  return replayAnchors ctx fromMs (preparedSeries (steadyInput price).candles)

theorem steadyReplay_evaluates {price : ℚ} {result : EvaluationEngineResult DirectionOutcome}
    (hanchors : (steadyAnchors price).toOption = some [sampleFromMs])
    (h : steadyReplay price = .ok result) :
    EvaluatesAt (engineFunctions displacementVersion.config flatScore) (steadyInput price)
      sampleFromMs result := by
  unfold steadyReplay at h
  unfold steadyAnchors at hanchors
  rcases hctx : replayContext (engineFunctions displacementVersion.config flatScore)
    (steadyInput price) with e | ⟨ctx, fromMs⟩
  · rw [hctx] at h
    cases h
  · rw [hctx] at h hanchors
    exact ⟨ctx, fromMs, [], [], .start, hctx, Option.some.inj hanchors, rfl, h⟩

theorem steadyCandles_time (price : ℚ) (periodMs : ℤ) :
    ∀ (i : ℕ) (hi : i < (steadyCandles price periodMs).length),
      (steadyCandles price periodMs)[i].time = sampleFromMs - (121 - i) * periodMs := by
  intro i hi
  obtain _ | i := i
  · simp [steadyCandles]
  · simp only [steadyCandles, List.getElem_cons_succ, List.getElem_map, List.getElem_range]
    push_cast
    ring

theorem steadyStore_gapFree (price : ℚ) (role : TimeframeRole) :
    ((steadyStore price).series sampleInstrument
      ((⟨.h4, .h1, .m15⟩ : StrategyTimeframes).of role)).GapFree
      ((⟨.h4, .h1, .m15⟩ : StrategyTimeframes).periodMs role) sampleFromMs
      (requiredWindows displacementVersion.config role) := by
  have hwindow : requiredWindows displacementVersion.config role = 120 := by
    cases role <;> decide
  set periodMs := (⟨.h4, .h1, .m15⟩ : StrategyTimeframes).periodMs role with hperiodMs
  have hpos : 0 < periodMs := StrategyTimeframes.periodMs_pos _ role
  have hfirst : 121 * periodMs < sampleFromMs := by
    rw [hperiodMs]
    cases role <;> decide
  have hlength : (steadyCandles price periodMs).length = 121 := by simp [steadyCandles]
  have htime : ∀ c ∈ steadyCandles price periodMs, 0 < c.time ∧ c.time + periodMs ≤ sampleFromMs := by
    intro c hc
    obtain ⟨i, hi, rfl⟩ := List.mem_iff_getElem.mp hc
    rw [steadyCandles_time]
    have hstart : 0 ≤ (i : ℤ) * periodMs := mul_nonneg (Int.natCast_nonneg i) hpos.le
    have hend : (i : ℤ) * periodMs ≤ 120 * periodMs :=
      mul_le_mul_of_nonneg_right (by omega) hpos.le
    rw [sub_mul]
    omega
  have hcandles : ((steadyStore price).series sampleInstrument
      ((⟨.h4, .h1, .m15⟩ : StrategyTimeframes).of role)).candles = steadyCandles price periodMs := rfl
  refine ⟨?_, fun c hc => (htime c hc).1, ?_⟩
  · rw [hcandles]
    refine List.isChain_iff_getElem.mpr fun i hi => ?_
    rw [steadyCandles_time, steadyCandles_time]
    push_cast
    ring
  · rw [hcandles, List.filter_eq_self.mpr fun c hc => by simpa using (htime c hc).2, hlength, hwindow]
    decide

theorem sampleDisplacement_params :
    parseParams sampleDisplacement.conditionType sampleDisplacement.params =
      some (.displacement .bullish 14 1) := by decide

theorem displacementVersion_condition {c : StoredCondition}
    (hc : c ∈ displacementVersion.config.conditions) : c = sampleDisplacement := by
  simpa [displacementVersion, VersionConfig.conditions] using hc

theorem displacementVersion_snapshot :
    ∀ c ∈ displacementVersion.config.conditions, c.Snapshot := by
  intro c hc
  rw [displacementVersion_condition hc]
  refine ⟨_, sampleDisplacement_params, fun key hkey _ => ?_⟩
  simp only [ConditionParams.type, ConditionType.keys, List.mem_cons, List.not_mem_nil,
    or_false] at hkey
  rcases hkey with rfl | rfl | rfl <;> simp [sampleDisplacement, JsValue.lookup]

/-- The live evaluation and the replay of one store at the start of the range. -/
theorem steady_runs (price : ℚ) (live replayed : Bool)
    (h : (evaluateVersion (steadyStore price) displacementVersion sampleFromMs).toOption.map
        (fun out => out.map (fun e => (e.instrument, e.directions.long.passed))) =
          some [(sampleInstrument, live)] ∧
      (steadyAnchors price).toOption = some [sampleFromMs] ∧
      (steadyReplay price).toOption.map (fun r => r.long.passed) = some replayed) :
    ∃ e result, evaluateVersion (steadyStore price) displacementVersion sampleFromMs = .ok [e] ∧
      e.instrument = sampleInstrument ∧ e.directions.long.passed = live ∧
      EvaluatesAt (engineFunctions displacementVersion.config flatScore) (steadyInput price)
        sampleFromMs result ∧ result.long.passed = replayed := by
  obtain ⟨hlive, hanchors, hreplay⟩ := h
  rcases hout : evaluateVersion (steadyStore price) displacementVersion sampleFromMs with error | out
  · rw [hout] at hlive
    cases hlive
  · rw [hout] at hlive
    obtain ⟨e, rfl, he⟩ := List.map_eq_singleton_iff.mp (Option.some.inj hlive)
    rcases hresult : steadyReplay price with error | result
    · rw [hresult] at hreplay
      cases hreplay
    · rw [hresult] at hreplay
      exact ⟨e, result, rfl, congrArg Prod.fst he, congrArg Prod.snd he,
        steadyReplay_evaluates hanchors hresult, Option.some.inj hreplay⟩

/-- On the store whose first candle is like the others the two paths agree. -/
theorem live_agrees_with_replay_steady :
    ∃ e result, evaluateVersion (steadyStore 11) displacementVersion sampleFromMs = .ok [e] ∧
      EvaluatesAt (engineFunctions displacementVersion.config flatScore) (steadyInput 11)
        sampleFromMs result ∧
      ∀ d, result.of d = (e.directions.of d).view := by
  obtain ⟨e, result, hlive, hinstrument, -, hreplay, -⟩ :=
    steady_runs 11 true true (by decide +kernel)
  refine ⟨e, result, hlive, hreplay, ?_⟩
  rw [steadyInput, ← hinstrument] at hreplay
  refine (live_agrees_with_replay_iff (steadyStore 11) displacementVersion ⟨.h4, .h1, .m15⟩ rfl
    flatScore sampleFromMs (sampleFromMs + 3600000) 10 .both .undefined .undefined sampleFromMs [e]
    hlive e List.mem_cons_self result hreplay displacementVersion_snapshot ?_ ?_).mpr ?_
  · rw [hinstrument]
    exact steadyStore_gapFree 11
  · intro c hc params hparse hbounded
    rw [displacementVersion_condition hc] at hparse
    cases sampleDisplacement_params.symm.trans hparse
    cases hbounded
  · intro c hc params hparse
    rw [displacementVersion_condition hc] at hparse
    cases sampleDisplacement_params.symm.trans hparse
    rw [displacementVersion_condition hc, hinstrument]
    show displaced _ _ _ _ = displaced _ _ _ _
    decide +kernel

/-- One earlier candle at a price of 100 is outside the live window and raises the average true range
of the replay: the displacement is there live and missing in the replay. -/
theorem replay_reads_older_candle :
    ∃ e result, evaluateVersion (steadyStore 100) displacementVersion sampleFromMs = .ok [e] ∧
      EvaluatesAt (engineFunctions displacementVersion.config flatScore) (steadyInput 100)
        sampleFromMs result ∧
      (∀ c ∈ displacementVersion.config.conditions, c.Snapshot) ∧
      (∀ role, ((steadyStore 100).series sampleInstrument
        ((⟨.h4, .h1, .m15⟩ : StrategyTimeframes).of role)).GapFree
        ((⟨.h4, .h1, .m15⟩ : StrategyTimeframes).periodMs role) sampleFromMs
        (requiredWindows displacementVersion.config role)) ∧
      e.directions.long.passed = true ∧ result.long.passed = false := by
  obtain ⟨e, result, hlive, -, hpassed, hreplay, hfailed⟩ :=
    steady_runs 100 true false (by decide +kernel)
  exact ⟨e, result, hlive, hreplay, displacementVersion_snapshot, steadyStore_gapFree 100, hpassed,
    hfailed⟩

end VeltrixEye
