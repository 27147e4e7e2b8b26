import VeltrixEye.Lib.Numerals
import VeltrixEye.Strategies.Replay

/-!
# The coverage guard (`backtest/engine.ts`, `assertRoleCoverage`)

At every anchor the guard compares the prefix pointer with the length of the series and the close of its last
candle with the anchor.
-/

namespace VeltrixEye

variable {X : Type}

/-! ## The roles of a replay -/

def ReplayContext.periodOf (ctx : ReplayContext X) : TimeframeRole → ℤ
  | .htf_bias => ctx.htfPeriodMs
  | .setup => ctx.setupPeriodMs
  | .entry => ctx.entryPeriodMs

def ReplayState.endOf (s : ReplayState) : TimeframeRole → ℕ
  | .htf_bias => s.htfEnd
  | .setup => s.setupEnd
  | .entry => s.entryEnd

/-- The guard of a role at an anchor. -/
def coverageCheck (ctx : ReplayContext X) (series : CandleSet) (s : ReplayState) (anchor : ℤ)
    (role : TimeframeRole) : Except BacktestError Unit :=
  assertRoleCoverage role (series.of role) (ctx.periodOf role) anchor
    (advancePrefix (series.of role) (ctx.periodOf role) anchor (s.endOf role))
    (requiredCoverage ctx.config role)

/-! ## The prefix pointers -/

/-- The candles closed at the anchor, counted from the start of the series. -/
def closedCount (candles : List CandleDto) (periodMs anchor : ℤ) : ℕ :=
  (candles.takeWhile fun c => c.time + periodMs ≤ anchor).length

theorem takeWhile_drop_length {α : Type} (p : α → Bool) {l : List α} {n : ℕ}
    (h : n ≤ (l.takeWhile p).length) : n + ((l.drop n).takeWhile p).length = (l.takeWhile p).length := by
  induction n generalizing l with
  | zero => rw [List.drop_zero, Nat.zero_add]
  | succ n ih =>
    cases l with
    | nil => cases h
    | cons a l =>
      cases hp : p a with
      | false =>
        rw [List.takeWhile_cons_of_neg (by simp [hp])] at h
        cases h
      | true =>
        rw [List.takeWhile_cons_of_pos hp, List.length_cons] at h ⊢
        rw [List.drop_succ_cons, ← ih (Nat.le_of_succ_le_succ h)]
        omega

theorem takeWhile_length_mono {α : Type} {p q : α → Bool} (h : ∀ a, p a = true → q a = true) (l : List α) :
    (l.takeWhile p).length ≤ (l.takeWhile q).length := by
  induction l with
  | nil => exact le_rfl
  | cons a l ih =>
    cases hp : p a with
    | false =>
      rw [List.takeWhile_cons_of_neg (by simp [hp])]
      exact Nat.zero_le _
    | true =>
      rw [List.takeWhile_cons_of_pos hp, List.takeWhile_cons_of_pos (h a hp)]
      exact Nat.succ_le_succ ih

theorem closedCount_mono (candles : List CandleDto) (periodMs : ℤ) {a b : ℤ} (h : a ≤ b) :
    closedCount candles periodMs a ≤ closedCount candles periodMs b := by
  refine takeWhile_length_mono (fun c hc => ?_) candles
  rw [decide_eq_true_eq] at hc ⊢
  exact hc.trans h

theorem advancePrefix_eq {candles : List CandleDto} {periodMs anchor : ℤ} {start : ℕ}
    (h : start ≤ closedCount candles periodMs anchor) :
    advancePrefix candles periodMs anchor start = closedCount candles periodMs anchor :=
  takeWhile_drop_length _ h

theorem replay_pointers {ctx : ReplayContext X} {series : CandleSet} {pre : List ℤ} {anchor : ℤ}
    {s : ReplayState} (hpre : ∀ a ∈ pre, a ≤ anchor)
    (h : pre.foldlM (replayAnchor ctx series) .start = .ok s) (role : TimeframeRole) :
    s.endOf role ≤ closedCount (series.of role) (ctx.periodOf role) anchor := by
  have hinv : ∀ r, s.endOf r ≤ closedCount (series.of r) (ctx.periodOf r) anchor := by
    refine Except.foldlM_inv (P := fun u => ∀ r, ReplayState.endOf u r ≤
      closedCount (series.of r) (ctx.periodOf r) anchor) ?_ (fun r => ?_) h
    · intro u a t ha hu hstep r
      obtain ⟨hhtf, hsetup, hentry, -⟩ := replayAnchor_ok hstep
      have hadvance : ∀ r, t.endOf r =
          advancePrefix (series.of r) (ctx.periodOf r) a (u.endOf r) := by
        intro r
        cases r with
        | htf_bias => exact hhtf
        | setup => exact hsetup
        | entry => exact hentry
      rw [hadvance r]
      rw [← advancePrefix_eq (hu r)]
      refine Nat.add_le_add_left (takeWhile_length_mono (fun c hc => ?_) _) _
      rw [decide_eq_true_eq] at hc ⊢
      exact hc.trans (hpre a ha)
    · cases r <;> exact Nat.zero_le _
  exact hinv role

/-! ## The guard -/

theorem closedCount_eq_length {candles : List CandleDto} {last : CandleDto} {periodMs anchor : ℤ}
    (hsorted : candles.Pairwise fun a b => a.time < b.time) (hlast : candles.getLast? = some last) :
    closedCount candles periodMs anchor = candles.length ↔ last.time + periodMs ≤ anchor := by
  obtain ⟨init, rfl⟩ := List.getLast?_eq_some_iff.mp hlast
  have hmem : last ∈ init ++ [last] := List.mem_append_right _ (List.mem_singleton_self _)
  constructor
  · intro h
    have hall : (init ++ [last]).takeWhile (fun c => c.time + periodMs ≤ anchor) = init ++ [last] :=
      (List.takeWhile_prefix _).eq_of_length h
    have := List.takeWhile_eq_self_iff.mp hall last hmem
    simpa using this
  · intro h
    have hall : ∀ c ∈ init ++ [last], decide (c.time + periodMs ≤ anchor) = true := by
      intro c hc
      rw [decide_eq_true_eq]
      rcases List.mem_append.mp hc with hc | hc
      · have := (List.pairwise_append.mp hsorted).2.2 c hc last (List.mem_singleton_self _)
        omega
      · rw [List.mem_singleton.mp hc]
        exact h
    unfold closedCount
    rw [List.takeWhile_eq_self_iff.mpr hall]

theorem assertRoleCoverage_error_iff {role : TimeframeRole} {candles : List CandleDto} {periodMs anchor : ℤ}
    (hsorted : candles.Pairwise fun a b => a.time < b.time) :
    (∃ e, assertRoleCoverage role candles periodMs anchor (closedCount candles periodMs anchor) true = .error e) ↔
      candles = [] ∨ ∃ last, candles.getLast? = some last ∧ last.time + periodMs < anchor := by
  unfold assertRoleCoverage
  simp only [Bool.not_true, Bool.false_eq_true, if_false]
  cases hlast : candles.getLast? with
  | none => simp [List.getLast?_eq_none_iff.mp hlast]
  | some last =>
    have hne : candles ≠ [] := by
      rintro rfl
      cases hlast
    have hend := @closedCount_eq_length candles last periodMs anchor hsorted hlast
    dsimp only
    constructor
    · rintro ⟨e, h⟩
      by_contra hfresh
      have hno : ¬(closedCount candles periodMs anchor = candles.length ∧ last.time + periodMs < anchor) :=
        fun hstale => hfresh (.inr ⟨last, rfl, hstale.2⟩)
      rw [if_neg hno] at h
      cases h
    · rintro (hnil | ⟨last', hlast', hstale⟩)
      · exact absurd hnil hne
      · cases hlast'
        exact ⟨_, if_pos ⟨hend.mpr hstale.le, hstale⟩⟩

/-! ## A missing candle -/

/-- The series is empty, or a candle of its grid beyond its end is closed at the anchor. -/
def CandleMissing (candles : List CandleDto) (periodMs anchor : ℤ) : Prop :=
  match candles.getLast? with
  | none => True
  | some last => ∃ k : ℕ, 0 < k ∧ last.time + k * periodMs + periodMs ≤ anchor

/-- The anchor lies inside the candle after the last one: that candle is still forming. -/
def InsideForming (candles : List CandleDto) (periodMs anchor : ℤ) : Prop :=
  ∃ last, candles.getLast? = some last ∧ last.time + periodMs < anchor ∧ anchor < last.time + 2 * periodMs

theorem candleMissing_iff {candles : List CandleDto} {periodMs anchor : ℤ} (hperiod : 0 < periodMs) :
    CandleMissing candles periodMs anchor ↔
      candles = [] ∨ ∃ last, candles.getLast? = some last ∧ last.time + 2 * periodMs ≤ anchor := by
  unfold CandleMissing
  cases hlast : candles.getLast? with
  | none => simp [List.getLast?_eq_none_iff.mp hlast]
  | some last =>
    constructor
    · rintro ⟨k, hk, hle⟩
      have hmul : periodMs ≤ k * periodMs := by
        have : (1 : ℤ) ≤ k := by exact_mod_cast hk
        nlinarith
      exact .inr ⟨last, rfl, by linarith⟩
    · rintro (hnil | ⟨last', hlast', hle⟩)
      · rw [hnil] at hlast
        cases hlast
      · cases hlast'
        exact ⟨1, Nat.one_pos, by push_cast; linarith⟩

section Run

variable {fns : BacktestFunctions X} {input : BacktestEngineInput} {ctx : ReplayContext X} {fromMs anchor : ℤ}
  {pre post : List ℤ} {s : ReplayState}

theorem periodOf_pos (hctx : replayContext fns input = .ok (ctx, fromMs)) (role : TimeframeRole) :
    0 < ctx.periodOf role := by
  obtain ⟨tf, -, hhtf, hsetup, hentry⟩ := (replayContext_ok hctx).periods
  have hpos : ∀ t, 0 < timeframeMinutes t * 60000 := fun t => by
    have := timeframeMinutes_pos t
    omega
  cases role with
  | htf_bias => exact (hpos _).trans_eq hhtf.symm
  | setup => exact (hpos _).trans_eq hsetup.symm
  | entry => exact (hpos _).trans_eq hentry.symm

theorem preparedSeries_sorted (candles : CandleSet) (role : TimeframeRole) :
    ((preparedSeries candles).of role).Pairwise fun a b => a.time < b.time := by
  cases role <;> exact Series.ofEntries_strict _ _

theorem replayAnchors_before (hanchors : replayAnchors ctx fromMs (preparedSeries input.candles) =
    pre ++ anchor :: post) : ∀ a ∈ pre, a ≤ anchor := by
  have hsorted := replayAnchors_ascending ctx fromMs (preparedSeries_sorted input.candles .setup)
  rw [hanchors] at hsorted
  intro a ha
  exact ((List.pairwise_append.mp hsorted).2.2 a ha anchor List.mem_cons_self).le

theorem runBacktest_refused (hctx : replayContext fns input = .ok (ctx, fromMs))
    (hanchors : replayAnchors ctx fromMs (preparedSeries input.candles) = pre ++ anchor :: post)
    (hreached : pre.foldlM (replayAnchor ctx (preparedSeries input.candles)) .start = .ok s)
    {e : BacktestError} (h : replayAnchor ctx (preparedSeries input.candles) s anchor = .error e) :
    runBacktest fns input = .error e := by
  unfold runBacktest
  rw [hctx]
  simp only [bind, Except.bind]
  rw [hanchors, List.foldlM_append, hreached]
  simp only [bind, Except.bind, List.foldlM_cons, h]

theorem replayAnchor_bias_refused {series : CandleSet} {e : BacktestError}
    (h : coverageCheck ctx series s anchor .htf_bias = .error e) :
    replayAnchor ctx series s anchor = .error e := by
  unfold coverageCheck at h
  simp only [CandleSet.of, ReplayContext.periodOf, ReplayState.endOf] at h
  unfold replayAnchor
  simp only [bind, Except.bind, h]

theorem replayAnchor_entry_refused {series : CandleSet} {e : BacktestError}
    (hbias : coverageCheck ctx series s anchor .htf_bias = .ok ())
    (h : coverageCheck ctx series s anchor .entry = .error e) :
    replayAnchor ctx series s anchor = .error e := by
  unfold coverageCheck at h hbias
  simp only [CandleSet.of, ReplayContext.periodOf, ReplayState.endOf] at h hbias
  unfold replayAnchor
  simp only [bind, Except.bind, h, hbias]

/-- **When the guard is exact.**  At an anchor a run reaches, for a role the version reads: the guard refuses
    exactly when a candle is missing, if and only if the anchor is not inside the candle that forms after
    the last one.  A refusal of the guard is the outcome of the run. -/
theorem coverage_exact (hctx : replayContext fns input = .ok (ctx, fromMs))
    (hanchors : replayAnchors ctx fromMs (preparedSeries input.candles) = pre ++ anchor :: post)
    (hreached : pre.foldlM (replayAnchor ctx (preparedSeries input.candles)) .start = .ok s)
    {role : TimeframeRole} (hread : requiredCoverage input.config role = true) (hrole : role ≠ .setup) :
    (((∃ e, coverageCheck ctx (preparedSeries input.candles) s anchor role = .error e) ↔
        CandleMissing ((preparedSeries input.candles).of role) (ctx.periodOf role) anchor) ↔
      ¬InsideForming ((preparedSeries input.candles).of role) (ctx.periodOf role) anchor) ∧
    ∀ e, coverageCheck ctx (preparedSeries input.candles) s anchor role = .error e →
      (role = .entry → coverageCheck ctx (preparedSeries input.candles) s anchor .htf_bias = .ok ()) →
      runBacktest fns input = .error e := by
  have hconfig := (replayContext_ok hctx).config
  have hperiod := periodOf_pos hctx role
  have hcheck : coverageCheck ctx (preparedSeries input.candles) s anchor role =
      assertRoleCoverage role ((preparedSeries input.candles).of role) (ctx.periodOf role) anchor
        (closedCount ((preparedSeries input.candles).of role) (ctx.periodOf role) anchor) true := by
    unfold coverageCheck
    rw [hconfig, hread, advancePrefix_eq (replay_pointers (replayAnchors_before hanchors) hreached role)]
  constructor
  · rw [hcheck, assertRoleCoverage_error_iff (preparedSeries_sorted _ role), candleMissing_iff hperiod]
    constructor
    · rintro h ⟨last, hlast, hafter, hbefore⟩
      rcases h.mp (.inr ⟨last, hlast, hafter⟩) with hnil | ⟨last', hlast', hle⟩
      · rw [hnil] at hlast
        cases hlast
      · cases hlast.symm.trans hlast'
        exact absurd hle (not_le.mpr hbefore)
    · intro hforming
      constructor
      · rintro (hnil | ⟨last, hlast, hafter⟩)
        · exact .inl hnil
        · exact .inr ⟨last, hlast, not_lt.mp fun hbefore => hforming ⟨last, hlast, hafter, hbefore⟩⟩
      · rintro (hnil | ⟨last, hlast, hle⟩)
        · exact .inl hnil
        · exact .inr ⟨last, hlast, by linarith⟩
  · intro e he hbias
    refine runBacktest_refused hctx hanchors hreached ?_
    cases role with
    | setup => exact absurd rfl hrole
    | htf_bias => exact replayAnchor_bias_refused he
    | entry => exact replayAnchor_entry_refused (hbias rfl) he

end Run

/-! ## A daily bias over an hourly setup -/

open Numerals in
/-- One daily candle, closed at the second day, and one hourly candle. -/
def dailyBias (setupTime : ℤ) : BacktestEngineInput where
  config := ⟨some ⟨.d1, .h1, .h1⟩, some ⟨2, .rr, some 60⟩, [[⟨"htf_alignment", .any⟩]]⟩
  instrument := ⟨"forex", "EURUSD"⟩
  pipSize := none
  candles := ⟨[⟨86400000, 100, 101, 99, 100, none⟩], [⟨setupTime, 100, 101, 99, 100, none⟩], []⟩
  fromMs := 172800000
  toMs := 259200000
  direction := .long
  exitPolicy := .undefined
  costPolicy := .undefined

/-- The anchor at the close of the daily candle: nothing is missing, and the guard lets it pass. -/
theorem coverage_exact_at_close :
    ∃ ctx fromMs, replayContext alwaysLong (dailyBias 169200000) = .ok (ctx, fromMs) ∧
      ((∃ e, coverageCheck ctx (preparedSeries (dailyBias 169200000).candles) .start 172800000 .htf_bias =
          .error e) ↔
        CandleMissing ((preparedSeries (dailyBias 169200000).candles).of .htf_bias)
          (ctx.periodOf .htf_bias) 172800000) := by
  have hfacts : (replayContext alwaysLong (dailyBias 169200000)).toOption.map (fun c =>
      (replayAnchors c.1 c.2 (preparedSeries (dailyBias 169200000).candles), c.1.periodOf .htf_bias)) =
        some ([172800000], 86400000) := by decide +kernel
  cases hctx : replayContext alwaysLong (dailyBias 169200000) with
  | error e =>
    rw [hctx] at hfacts
    cases hfacts
  | ok c =>
    obtain ⟨ctx, fromMs⟩ := c
    rw [hctx] at hfacts
    obtain ⟨hanchors, hperiod⟩ := Prod.ext_iff.mp (Option.some.inj hfacts)
    have hanchors' : replayAnchors ctx fromMs (preparedSeries (dailyBias 169200000).candles) =
        [] ++ 172800000 :: [] := hanchors
    refine ⟨ctx, fromMs, rfl, (coverage_exact hctx hanchors' rfl (by decide) (by decide)).1.mpr ?_⟩
    rintro ⟨last, hlast, hafter, -⟩
    have hlast' : ((preparedSeries (dailyBias 169200000).candles).of .htf_bias).getLast? =
        some ⟨86400000, 100, 101, 99, 100, none⟩ := by decide
    cases hlast.symm.trans hlast'
    rw [show ctx.periodOf .htf_bias = 86400000 from hperiod] at hafter
    revert hafter
    decide

/-- One hour later the next daily candle is still forming: nothing is missing, and the run is refused. -/
theorem forming_bias_refused :
    (∃ e, runBacktest alwaysLong (dailyBias 172800000) = .error e ∧
      e = .roleStale .htf_bias 172800000 176400000) ∧
      ¬CandleMissing ((preparedSeries (dailyBias 172800000).candles).of .htf_bias) 86400000 176400000 := by
  constructor
  · have h : (match runBacktest alwaysLong (dailyBias 172800000) with
        | .ok _ => none
        | .error e => some e) = some (.roleStale .htf_bias 172800000 176400000) := by decide +kernel
    cases hr : runBacktest alwaysLong (dailyBias 172800000) with
    | ok r =>
      rw [hr] at h
      cases h
    | error e =>
      rw [hr] at h
      exact ⟨e, rfl, Option.some.inj h⟩
  · rw [candleMissing_iff (by decide)]
    rintro (hnil | ⟨last, hlast, hle⟩)
    · have : (preparedSeries (dailyBias 172800000).candles).of .htf_bias ≠ [] := by decide
      exact this hnil
    · have hlast' : ((preparedSeries (dailyBias 172800000).candles).of .htf_bias).getLast? =
          some ⟨86400000, 100, 101, 99, 100, none⟩ := by decide
      cases hlast'.symm.trans hlast
      revert hle
      decide

end VeltrixEye
