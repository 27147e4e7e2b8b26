import VeltrixEye.Lib.Numerals
import VeltrixEye.Strategies.Replay

/-!
# Windows by count (`requiredWindows`)

`requiredWindows` is meant to bound the candles an evaluation reads, counted from the last closed one.
It reads the stored parameters, the engine parses them with their defaults: where a condition states the
parameter that sizes its window (as the write path stores it), one candle less than the window is enough.

* `closedSet_lastClosed` — the last closed candles of a role, closed again.
-/

namespace VeltrixEye

/-! ## Closed candles -/

theorem closedCandles_sorted (candles : List CandleDto) (periodMs asOfMs : ℤ) :
    (closedCandles candles periodMs asOfMs).Pairwise (fun a b => a.time ≤ b.time) :=
  List.pairwise_insertionSort _ _

theorem mem_closedCandles {candles : List CandleDto} {periodMs asOfMs : ℤ} {c : CandleDto} :
    c ∈ closedCandles candles periodMs asOfMs ↔ c ∈ candles ∧ c.time + periodMs ≤ asOfMs := by
  unfold closedCandles
  rw [List.mem_insertionSort, List.mem_filter, decide_eq_true_eq]

theorem closedCandles_of_sublist {part candles : List CandleDto} {periodMs asOfMs : ℤ}
    (h : part.Sublist (closedCandles candles periodMs asOfMs)) :
    closedCandles part periodMs asOfMs = part := by
  have hfilter : part.filter (fun c => c.time + periodMs ≤ asOfMs) = part := by
    apply List.filter_eq_self.mpr
    intro c hc
    exact decide_eq_true (mem_closedCandles.mp (h.subset hc)).2
  unfold closedCandles
  rw [hfilter]
  exact ((closedCandles_sorted candles periodMs asOfMs).sublist h).insertionSort_eq

/-! ## The last candles of each role -/

/-- The last `count` closed candles of each role. -/
def lastClosed (timeframes : StrategyTimeframes) (candles : CandleSet) (asOfMs : ℤ)
    (count : TimeframeRole → ℕ) : CandleSet where
  htf_bias := ((closedSet timeframes candles asOfMs).of .htf_bias).rtake (count .htf_bias)
  setup := ((closedSet timeframes candles asOfMs).of .setup).rtake (count .setup)
  entry := ((closedSet timeframes candles asOfMs).of .entry).rtake (count .entry)

theorem lastClosed_of (timeframes : StrategyTimeframes) (candles : CandleSet) (asOfMs : ℤ)
    (count : TimeframeRole → ℕ) (role : TimeframeRole) :
    (lastClosed timeframes candles asOfMs count).of role =
      ((closedSet timeframes candles asOfMs).of role).rtake (count role) := by
  cases role <;> rfl

theorem closedSet_lastClosed (timeframes : StrategyTimeframes) (candles : CandleSet) (asOfMs : ℤ)
    (count : TimeframeRole → ℕ) (role : TimeframeRole) :
    (closedSet timeframes (lastClosed timeframes candles asOfMs count) asOfMs).of role =
      ((closedSet timeframes candles asOfMs).of role).rtake (count role) := by
  rw [closedSet_of, lastClosed_of, closedSet_of]
  exact closedCandles_of_sublist (List.drop_sublist _ _)

theorem rtake_covers {α : Type} (l : List α) (n : ℕ) :
    l.rtake n <:+ l ∧ (l.rtake n = l ∨ n ≤ (l.rtake n).length) := by
  refine ⟨List.drop_suffix _ _, ?_⟩
  rcases Nat.le_total l.length n with hle | hle
  · left
    rw [List.rtake, Nat.sub_eq_zero_of_le hle, List.drop_zero]
  · right
    rw [List.rtake, List.length_drop]
    omega

/-- **`requiredWindows` is sufficient by count**, for conditions that state their windows. -/
theorem requiredWindows_sufficient {config : VersionConfig} {timeframes : StrategyTimeframes}
    (htimeframes : config.timeframes = some timeframes)
    (hbounded : ∀ c ∈ config.conditions, ∀ params,
      parseParams c.conditionType c.params = some params → params.unbounded = false)
    (hclamp : ∀ c ∈ config.conditions,
      ⌈conditionNeed c⌉.toNat + anchorOffsetOf c.params + WINDOW_MARGIN < MAX_WINDOW_CANDLES)
    (hstates : ∀ c ∈ config.conditions, c.StatesWindow) (candles : CandleSet) (asOfMs : ℤ)
    (pipSize : Option JsNumber) :
    evaluate config
        (lastClosed timeframes candles asOfMs (fun role => requiredWindows config role - 1)) asOfMs
        pipSize =
      evaluate config candles asOfMs pipSize := by
  have hone : ∀ (risk : VersionRisk) (direction : Direction),
      evaluateClosed config risk (closedSet timeframes (lastClosed timeframes candles asOfMs
          (fun role => requiredWindows config role - 1)) asOfMs) pipSize direction =
        evaluateClosed config risk (closedSet timeframes candles asOfMs) pipSize direction := by
    intro risk direction
    set part := closedSet timeframes (lastClosed timeframes candles asOfMs
      (fun role => requiredWindows config role - 1)) asOfMs with hpart
    set complete := closedSet timeframes candles asOfMs with hcomplete
    have hof : ∀ role, part.of role = (complete.of role).rtake (requiredWindows config role - 1) :=
      closedSet_lastClosed timeframes candles asOfMs _
    have hcovers : ∀ role, part.of role <:+ complete.of role ∧ (part.of role = complete.of role ∨
        requiredWindows config role - 1 ≤ (part.of role).length) := by
      intro role
      rw [hof]
      exact rtake_covers _ _
    obtain ⟨hsetup, hsetupCovered⟩ := hcovers .setup
    have hmin := requiredWindows_ge config .setup
    have hwindow : CANDIDATE_WINDOW < MIN_WINDOW_CANDLES := by decide
    have hcandidate := deriveCandidate_local risk hsetup
      (hsetupCovered.imp id fun h => by omega) pipSize direction
    have hlast : part.setup.getLast? = complete.setup.getLast? := by
      rcases hsetupCovered with hall | hlength
      · exact congrArg List.getLast? hall
      · refine Suffix.getLast?_eq_of_suffix hsetup (List.ne_nil_of_length_pos ?_)
        have htwo : 2 ≤ MIN_WINDOW_CANDLES := by decide
        show 0 < (part.of .setup).length
        omega
    have hsame : DirectionContext.SameInputs
        ⟨direction, risk, part, deriveCandidate risk part.setup pipSize direction⟩
        ⟨direction, risk, complete, deriveCandidate risk complete.setup pipSize direction⟩ :=
      ⟨rfl, rfl, hcandidate⟩
    refine (evaluateDirection_eq_iff config hsame _ hlast).mpr fun c hc => ?_
    refine conditionStatus_local hsame ⟨(hcovers c.role).1, (hcovers c.role).2.imp id ?_⟩
    intro hlength params hparse
    refine ⟨hbounded c hc params hparse, ?_⟩
    have hneed := reach_le_need (hstates c hc) hparse
    have hmargin : 40 ≤ WINDOW_MARGIN := by decide
    have hfits := hclamp c hc
    have hreach := reach_lt_window hc (hstates c hc) hparse (by omega)
    show anchorOffsetOf c.params + params.reach ≤ (part.of c.role).length
    omega
  unfold evaluate
  rw [htimeframes]
  rcases config.risk with _ | risk
  · rfl
  · simp only [hone]

/-! ## One candle beyond the window -/

open Numerals in
/-- 121 hourly candles with a low of 10, but for the first, whose low is 1. -/
def supportSeries : CandleSet where
  htf_bias := []
  setup := (List.range 121).map (fun i : ℕ =>
    ⟨i * 3600000, 11, 12, if i = 0 then 1 else 10, 11, none⟩)
  entry := []

theorem requiredWindows_sufficient_rejection :
    evaluate sampleVersion.config (lastClosed ⟨.h4, .h1, .m15⟩ supportSeries 435600000
        (fun role => requiredWindows sampleVersion.config role - 1)) 435600000 none =
      evaluate sampleVersion.config supportSeries 435600000 none := by
  have hcondition : ∀ c ∈ sampleVersion.config.conditions, c = sampleRejection := by
    simp [sampleVersion, VersionConfig.conditions]
  have hparams : parseParams sampleRejection.conditionType sampleRejection.params =
      some (.rejection_candle .bullish 2) := by decide
  refine requiredWindows_sufficient rfl ?_ ?_ ?_ _ _ _
  · intro c hc params hparse
    obtain rfl := hcondition c hc
    cases hparams.symm.trans hparse
    rfl
  · intro c hc
    obtain rfl := hcondition c hc
    decide
  · intro c hc params key n hparse hkey
    obtain rfl := hcondition c hc
    cases hparams.symm.trans hparse
    cases hkey

/-- A support level touched twice, within the default lookback of 500 candles. -/
def defaultedSupport : StoredCondition where
  conditionType := "support"
  classification := .required
  timeframeRole := .role .setup
  params := [("minTouches", .number (.fin 2))]

def defaultedConfig : VersionConfig where
  timeframes := some ⟨.h4, .h1, .m15⟩
  marketScope := some (.instruments [sampleInstrument])
  sessionFilters := []
  risk := some sampleSessionRisk
  ruleGroups := [⟨"trigger", .and, [defaultedSupport]⟩]

/-- **The claimed property fails** where the lookback is left to its default: the window counts 120
candles, the handler reads the 121st. -/
theorem default_lookback_exceeds_window :
    parseParams defaultedSupport.conditionType defaultedSupport.params = some (.support 2 500) ∧
    ⌈conditionNeed defaultedSupport⌉.toNat + anchorOffsetOf defaultedSupport.params +
      WINDOW_MARGIN < MAX_WINDOW_CANDLES ∧
    (evaluate defaultedConfig (lastClosed ⟨.h4, .h1, .m15⟩ supportSeries 435600000
        (fun role => requiredWindows defaultedConfig role - 1)) 435600000 none).map
      (fun r => r.long.passed) = .ok true ∧
    (evaluate defaultedConfig supportSeries 435600000 none).map (fun r => r.long.passed) =
      .ok false := by
  exact ⟨by decide +kernel, by decide +kernel, by decide +kernel, by decide +kernel⟩

end VeltrixEye
