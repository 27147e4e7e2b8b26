import VeltrixEye.Risk.Account

/-!
# Runs of the risk account

A profile's account starts without a row; `evaluate` loads it (creating it and rolling its
windows) and `recordRealizedPl` posts a P&L.  A paper close writes the position's `realized_pl`
and posts the same net P&L in one transaction.

Principal results:
-/

namespace VeltrixEye

/-! ## Account runs -/

/-- The two transactions that write an account row.  `nowMs` is the service clock, `dbNow` the
    database's. -/
inductive AccountAction where
  | evaluate (policy : PaperEquity) (nowMs dbNow : ℤ)
  | recordRealizedPl (policy : Option PaperEquity) (realizedPl : JsNumber) (nowMs dbNow : ℤ)

def AccountAction.apply (row : Option AccountRow) : AccountAction → Except AccountError AccountRow
  | .evaluate policy nowMs dbNow => loadOrCreateAccountState row nowMs dbNow policy.value.toRat
  | .recordRealizedPl policy realizedPl nowMs dbNow =>
    recordRealizedPlInTransaction row policy realizedPl nowMs dbNow

/-- A failed transaction rolls back. -/
def accountStep (row : Option AccountRow) (a : AccountAction) : Option AccountRow :=
  match a.apply row with
  | .ok r => some r
  | .error _ => row

/-- What holds of the row between transactions. -/
def RowInv : Option AccountRow → Prop
  | none => True
  | some r => r.Coherent ∧ r.PctsWritten

/-- The row a writer starts from: the existing one, or a freshly inserted one. -/
def Base : Option AccountRow → AccountRow → Prop
  | none, r => (r.Coherent ∧ r.PctsWritten) ∧ r.cumulativeRealizedPl = 0 ∧ r.peakEquity = r.initialEquity
  | some r₀, r => r = r₀

/-- What one successful transaction does to its base row. -/
inductive Written (r r' : AccountRow) : Prop where
  | rolled (h : Rolled r r')
  | posted (r₁ : AccountRow) (d : Dec) (hr : Rolled r r₁) (hp : Posted r₁ d r')

theorem drawdownPctOf_self (b : ℚ) : drawdownPctOf b b = 0 := by
  unfold drawdownPctOf
  split <;> simp

theorem onGrid_conservativeStoredEquity (q : ℚ) : Numeric.OnGrid 4 (conservativeStoredEquity q) :=
  ⟨mathTrunc (q * 10000), by norm_num [conservativeStoredEquity]⟩

theorem conservativeStoredEquity_pos {q : ℚ} (h : 100 ≤ q) : 0 < conservativeStoredEquity q := by
  unfold conservativeStoredEquity mathTrunc
  rw [if_pos (by linarith)]
  have hfloor : 1 ≤ ⌊q * 10000⌋ := Int.le_floor.mpr (by push_cast; linarith)
  have : (0 : ℚ) < ⌊q * 10000⌋ := by exact_mod_cast (by omega : 0 < ⌊q * 10000⌋)
  positivity

theorem insertAccountState_ok {nowMs dbNow : ℤ} {pe : ℚ} {r : AccountRow} (hpe : 100 ≤ pe)
    (h : insertAccountState nowMs dbNow pe = .ok r) : Base none r := by
  unfold insertAccountState at h
  simp only [Except.bind_ok_iff] at h
  obtain ⟨e, he, h⟩ := h
  cases h
  have hval := toRat_of_store (onGrid_conservativeStoredEquity pe) he
  have hpos : 0 < e.toRat := by
    rw [hval]
    exact conservativeStoredEquity_pos hpe
  refine ⟨⟨⟨rfl, hpos, ?_, le_rfl, le_rfl⟩, ⟨?_, ?_, ?_⟩⟩, rfl, rfl⟩
  all_goals simp [AccountRow.accountValue, drawdownPctOf_self, Rounding.halfAway]

theorem initializeBaselines_of_initialized {r : AccountRow} {dbNow : ℤ} {pe : ℚ}
    (h : r.equityInitialized = true) : initializeBaselines r dbNow pe = .ok r := by
  unfold initializeBaselines
  simp [h]

theorem Base.inv {row : Option AccountRow} {r : AccountRow} (hrow : RowInv row) (h : Base row r) :
    r.Coherent ∧ r.PctsWritten := by
  cases row with
  | none => exact h.1
  | some r₀ =>
    cases h
    exact hrow

/-- **Loading** starts from the base row and only rolls its windows. -/
theorem loadOrCreateAccountState_ok {row : Option AccountRow} {nowMs dbNow : ℤ} {pe : ℚ}
    {r : AccountRow} (hrow : RowInv row) (hpe : 100 ≤ pe)
    (h : loadOrCreateAccountState row nowMs dbNow pe = .ok r) : ∃ r₀, Base row r₀ ∧ Rolled r₀ r := by
  unfold loadOrCreateAccountState at h
  simp only [Except.bind_ok_iff] at h
  obtain ⟨r₀, h₀, r₁, h₁, h⟩ := h
  have hbase : Base row r₀ := by
    cases row with
    | none => exact insertAccountState_ok hpe h₀
    | some r' =>
      cases h₀
      rfl
  have hinv := (hbase.inv hrow).1
  rw [initializeBaselines_of_initialized hinv.initialized] at h₁
  cases h₁
  exact ⟨r₀, hbase, rollWindows_ok hinv.initial_pos h⟩

theorem policyEquity_ge (policy : Option PaperEquity) :
    100 ≤ (policy.map fun p => p.value.toRat).getD PLATFORM_RISK_CEILINGS.defaultPaperEquity := by
  cases policy with
  | none => norm_num [PLATFORM_RISK_CEILINGS]
  | some p => exact p.ge_min

/-- **One transaction**: everything a successful action does. -/
theorem apply_ok {row : Option AccountRow} {a : AccountAction} {r : AccountRow} (hrow : RowInv row)
    (h : a.apply row = .ok r) : ∃ r₀, Base row r₀ ∧ Written r₀ r := by
  cases a with
  | evaluate policy nowMs dbNow =>
    obtain ⟨r₀, hbase, hroll⟩ := loadOrCreateAccountState_ok hrow policy.ge_min h
    exact ⟨r₀, hbase, .rolled hroll⟩
  | recordRealizedPl policy realizedPl nowMs dbNow =>
    cases realizedPl with
    | fin pl =>
      simp only [AccountAction.apply, recordRealizedPlInTransaction, Except.bind_ok_iff] at h
      obtain ⟨r₁, hload, hpost⟩ := h
      obtain ⟨r₀, hbase, hroll⟩ := loadOrCreateAccountState_ok hrow (policyEquity_ge policy) hload
      obtain ⟨d, -, hposted⟩ := postRealizedPl_ok hpost
      exact ⟨r₀, hbase, .posted r₁ d hroll hposted⟩
    | nan => cases h
    | posInf => cases h
    | negInf => cases h

/-! ## Coherence -/

theorem Rolled.coherent {r r' : AccountRow} (h : Rolled r r') (hr : r.Coherent) : r'.Coherent := by
  refine ⟨h.initialized.trans hr.initialized, h.initialEquity ▸ hr.initial_pos, ?_, ?_, ?_⟩
  · rw [h.accountValue]
    rcases h.dailyHigh with e | e
    · rw [e]
      exact hr.value_le_dailyHigh
    · exact e.ge
  · rw [h.peak]
    rcases h.dailyHigh with e | e
    · rw [e]
      exact hr.dailyHigh_le_peak
    · rw [e]
      exact hr.value_le_peak
  · rw [h.peak]
    rcases h.weeklyOpen with e | e
    · rw [e]
      exact hr.weeklyOpen_le_peak
    · rw [e]
      exact hr.value_le_peak

theorem Posted.coherent {r r' : AccountRow} {d : Dec} (h : Posted r d r') (hr : r.Coherent) :
    r'.Coherent := by
  refine ⟨h.initialized, h.initialEquity ▸ hr.initial_pos, ?_, ?_, ?_⟩
  · rw [h.dailyHigh]
    exact le_max_right _ _
  · rw [h.dailyHigh, h.peak]
    exact max_le_max_right _ hr.dailyHigh_le_peak
  · rw [h.weeklyOpen, h.peak]
    exact hr.weeklyOpen_le_peak.trans (le_max_left _ _)

theorem Written.inv {r r' : AccountRow} (h : Written r r') (hr : r.Coherent ∧ r.PctsWritten) :
    r'.Coherent ∧ r'.PctsWritten := by
  cases h with
  | rolled h =>
    refine ⟨h.coherent hr.1, ?_⟩
    rcases h.pcts with rfl | hp
    · exact hr.2
    · exact hp
  | posted r₁ d hroll hpost => exact ⟨hpost.coherent (hroll.coherent hr.1), hpost.pcts⟩

theorem Written.initialEquity {r r' : AccountRow} (h : Written r r') :
    r'.initialEquity = r.initialEquity := by
  cases h with
  | rolled h => exact h.initialEquity
  | posted r₁ d hroll hpost => exact hpost.initialEquity.trans hroll.initialEquity

theorem Written.peak {r r' : AccountRow} (h : Written r r') (hr : r.Coherent) :
    r'.peakEquity.toRat = max r.peakEquity.toRat r'.accountValue := by
  cases h with
  | rolled h => rw [h.peak, h.accountValue, max_eq_left hr.value_le_peak]
  | posted r₁ d hroll hpost => rw [hpost.peak, hroll.peak]

theorem accountStep_cases {row : Option AccountRow} (hrow : RowInv row) (a : AccountAction) :
    accountStep row a = row ∨ ∃ r₀ r, accountStep row a = some r ∧ Base row r₀ ∧ Written r₀ r := by
  unfold accountStep
  split
  · rename_i r hr
    obtain ⟨r₀, hbase, hw⟩ := apply_ok hrow hr
    exact .inr ⟨r₀, r, rfl, hbase, hw⟩
  · exact .inl rfl

theorem rowInv_step (row : Option AccountRow) (a : AccountAction) (hrow : RowInv row) :
    RowInv (accountStep row a) := by
  rcases accountStep_cases hrow a with h | ⟨r₀, r, h, hbase, hw⟩
  · rw [h]
    exact hrow
  · rw [h]
    exact hw.inv (hbase.inv hrow)

/-- **Run lemma**: every row a run produces is coherent, with percentages from its own fields. -/
theorem rowInv_run (as : List AccountAction) : RowInv (Runs.run accountStep none as) := by
  have h₀ : RowInv none := trivial
  exact Runs.inv_run_always accountStep rowInv_step h₀ as

/-! ## The peak and the baseline over a run -/

/-- The account values a run has reached: the baseline it started from and every committed row's. -/
def valuesReached (as : List AccountAction) (initial : ℚ) : Set ℚ :=
  {v | v = initial ∨ ∃ r, Runs.Reached accountStep none as (some r) ∧ v = r.accountValue}

/-- The history a row carries: one baseline for all rows of the run, and the greatest value. -/
def History (as : List AccountAction) (r : AccountRow) : Prop :=
  (∀ r', Runs.Reached accountStep none as (some r') → r'.initialEquity = r.initialEquity) ∧
    IsGreatest (valuesReached as r.initialEquity.toRat) r.peakEquity.toRat

theorem reached_none_of_run_none {as : List AccountAction} :
    Runs.run accountStep none as = none → ∀ r, ¬ Runs.Reached accountStep none as (some r) := by
  induction as using List.reverseRecOn with
  | nil =>
    intro _ r hr
    cases (Runs.reached_nil accountStep).mp hr
  | append_singleton as a ih =>
    intro h r hr
    rw [Runs.run_append] at h
    -- a row never disappears, so the shorter run had none either
    have hprev : Runs.run accountStep none as = none := by
      cases hrow : Runs.run accountStep none as with
      | none => rfl
      | some r₀ =>
        rw [hrow] at h
        simp only [Runs.run_cons, Runs.run_nil, accountStep] at h
        split at h <;> cases h
    rcases (Runs.reached_concat accountStep).mp hr with hr | hr
    · exact ih hprev r hr
    · rw [Runs.run_cons, Runs.run_nil] at h
      rw [h] at hr
      cases hr

theorem History.unchanged {as : List AccountAction} {a : AccountAction} {r : AccountRow}
    (h : History as r) (hrun : Runs.run accountStep none as = some r)
    (hstep : accountStep (some r) a = some r) : History (as ++ [a]) r := by
  have hreach : ∀ r', Runs.Reached accountStep none (as ++ [a]) (some r') ↔
      Runs.Reached accountStep none as (some r') := by
    intro r'
    rw [Runs.reached_concat, hrun, hstep]
    refine ⟨?_, .inl⟩
    rintro (h | h)
    · exact h
    · rw [h, ← hrun]
      exact Runs.reached_last accountStep none as
  unfold History valuesReached
  simp only [hreach]
  exact h

theorem History.written {as : List AccountAction} {a : AccountAction} {r₀ r : AccountRow}
    (hr₀ : r₀.Coherent) (hw : Written r₀ r)
    (hinit : ∀ r', Runs.Reached accountStep none as (some r') → r'.initialEquity = r₀.initialEquity)
    (hpeak : IsGreatest (valuesReached as r₀.initialEquity.toRat) r₀.peakEquity.toRat)
    (hstep : accountStep (Runs.run accountStep none as) a = some r) : History (as ++ [a]) r := by
  have hreach : ∀ r', Runs.Reached accountStep none (as ++ [a]) (some r') ↔
      Runs.Reached accountStep none as (some r') ∨ r' = r := by
    intro r'
    rw [Runs.reached_concat, hstep, Option.some.injEq]
  have hset : valuesReached (as ++ [a]) r.initialEquity.toRat =
      insert r.accountValue (valuesReached as r₀.initialEquity.toRat) := by
    ext v
    simp only [valuesReached, hreach, hw.initialEquity, Set.mem_ofPred_eq, Set.mem_insert_iff]
    constructor
    · rintro (h | ⟨r', h | rfl, hv⟩)
      · exact .inr (.inl h)
      · exact .inr (.inr ⟨r', h, hv⟩)
      · exact .inl hv
    · rintro (h | h | ⟨r', h, hv⟩)
      · exact .inr ⟨r, .inr rfl, h⟩
      · exact .inl h
      · exact .inr ⟨r', .inl h, hv⟩
  refine ⟨?_, ?_⟩
  · intro r' h
    rcases (hreach r').mp h with h | rfl
    · rw [hw.initialEquity, hinit r' h]
    · rfl
  · rw [hset, hw.peak hr₀, max_comm]
    exact hpeak.insert _

/-- **History of a run**: the baseline never changes and the peak is the highest value reached. -/
theorem history_run {as : List AccountAction} {r : AccountRow}
    (h : Runs.run accountStep none as = some r) : History as r := by
  induction as using List.reverseRecOn generalizing r with
  | nil => cases h
  | append_singleton as a ih =>
    have hinv := rowInv_run as
    rw [Runs.run_append, Runs.run_cons, Runs.run_nil] at h
    rcases accountStep_cases hinv a with hsame | ⟨r₀, r₁, hr₁, hbase, hw⟩
    · rw [hsame] at h
      exact (ih h).unchanged h (by rw [← h, hsame])
    · rw [hr₁] at h
      cases h
      refine History.written (hbase.inv hinv).1 hw ?_ ?_ hr₁
      · intro r' hr'
        cases hrow : Runs.run accountStep none as with
        | none => exact absurd hr' (reached_none_of_run_none hrow r')
        | some s =>
          rw [hrow] at hbase
          cases hbase
          exact (ih hrow).1 r' hr'
      · cases hrow : Runs.run accountStep none as with
        | none =>
          rw [hrow] at hbase
          have hset : valuesReached as r₀.initialEquity.toRat = {r₀.initialEquity.toRat} := by
            ext v
            simp [valuesReached, reached_none_of_run_none hrow]
          rw [hset, hbase.2.2]
          exact isGreatest_singleton
        | some s =>
          rw [hrow] at hbase
          cases hbase
          exact (ih hrow).2

/-! ## The relational check never fires -/

theorem store_ne_contradictory (p s : ℕ) (q : ℚ) : store p s q ≠ .error .contradictoryData := by
  unfold store
  split <;> intro h <;> cases h

theorem rollWindows_ne_contradictory (r : AccountRow) (nowMs dbNow : ℤ) (pe : ℚ) :
    rollWindows r nowMs dbNow pe ≠ .error .contradictoryData := by
  unfold rollWindows
  change (if _ then _ else _) ≠ _
  split
  · intro h
    cases h
  · repeat
      apply Except.bind_ne_error (store_ne_contradictory _ _ _)
      intro _ _
    intro h
    cases h

theorem loadOrCreateAccountState_ne_contradictory {row : Option AccountRow} (hrow : RowInv row)
    (nowMs dbNow : ℤ) {pe : ℚ} (hpe : 100 ≤ pe) :
    loadOrCreateAccountState row nowMs dbNow pe ≠ .error .contradictoryData := by
  unfold loadOrCreateAccountState
  apply Except.bind_ne_error
  · cases row with
    | none =>
      apply Except.bind_ne_error (store_ne_contradictory _ _ _)
      intro _ _ h
      cases h
    | some r =>
      intro h
      cases h
  · intro r₀ h₀
    have hinit : r₀.equityInitialized = true := by
      cases row with
      | none => exact (insertAccountState_ok hpe h₀).1.1.initialized
      | some r =>
        cases h₀
        exact hrow.1.initialized
    rw [initializeBaselines_of_initialized hinit]
    exact rollWindows_ne_contradictory r₀ nowMs dbNow pe

theorem postRealizedPl_ne_contradictory {r : AccountRow} (hr : r.Coherent) (pl : ℚ) (dbNow : ℤ) :
    postRealizedPl r pl dbNow ≠ .error .contradictoryData := by
  unfold postRealizedPl
  split
  · apply Except.bind_ne_error
    · unfold liftCalc
      split <;> intro h <;> cases h
    · intro raw _
      rw [if_neg hr.not_contradictory]
      repeat
        apply Except.bind_ne_error (store_ne_contradictory _ _ _)
        intro _ _
      intro h
      cases h
  · intro h
    cases h

theorem record_ne_contradictory {row : Option AccountRow} (hrow : RowInv row)
    (policy : Option PaperEquity) (realizedPl : JsNumber) (nowMs dbNow : ℤ) :
    recordRealizedPlInTransaction row policy realizedPl nowMs dbNow ≠ .error .contradictoryData := by
  unfold recordRealizedPlInTransaction
  split
  · have hpe := policyEquity_ge policy
    apply Except.bind_ne_error (loadOrCreateAccountState_ne_contradictory hrow nowMs dbNow hpe)
    intro state hload
    obtain ⟨r₀, hbase, hroll⟩ := loadOrCreateAccountState_ok hrow hpe hload
    exact postRealizedPl_ne_contradictory (hroll.coherent (hbase.inv hrow).1) _ _
  · intro h
    cases h

/-- **The account ledger over every run.**  Whatever evaluations and postings a fresh profile
    sees, at whatever clocks: the baseline is immutable, the account value is at most the daily
    high and that at most the peak, the weekly open is at most the peak, the peak is the greatest
    value ever reached, and the next posting never meets contradictory data. -/
theorem account_row_stays_coherent (as : List AccountAction) :
    (∀ r, Runs.run accountStep none as = some r →
      (∀ r', Runs.Reached accountStep none as (some r') → r'.initialEquity = r.initialEquity) ∧
      r.initialEquity.toRat + r.cumulativeRealizedPl.toRat ≤ r.dailyHighValue.toRat ∧
      r.dailyHighValue.toRat ≤ r.peakEquity.toRat ∧
      r.weeklyOpenValue.toRat ≤ r.peakEquity.toRat ∧
      IsGreatest (valuesReached as r.initialEquity.toRat) r.peakEquity.toRat) ∧
    ∀ policy realizedPl nowMs dbNow,
      recordRealizedPlInTransaction (Runs.run accountStep none as) policy realizedPl nowMs dbNow ≠
        .error .contradictoryData := by
  refine ⟨?_, fun policy pl nowMs dbNow => record_ne_contradictory (rowInv_run as) policy pl nowMs dbNow⟩
  intro r hr
  have hinv := rowInv_run as
  rw [hr] at hinv
  obtain ⟨hcoh, -⟩ := hinv
  obtain ⟨hbaseline, hpeak⟩ := history_run hr
  exact ⟨hbaseline, hcoh.value_le_dailyHigh, hcoh.dailyHigh_le_peak, hcoh.weeklyOpen_le_peak, hpeak⟩

def equity10000 : PaperEquity := ⟨⟨100000000000000, by decide⟩, by decide +kernel, by decide +kernel⟩

/-- A loss on the second day and a load in the following week. -/
theorem account_row_stays_coherent_after_loss :
    ∃ r, Runs.run accountStep none
        [.evaluate equity10000 0 0, .recordRealizedPl equity10000 (.fin (-50)) MS_PER_DAY 1,
         .evaluate equity10000 (8 * MS_PER_DAY) 2] = some r ∧
      r.dailyHighValue.toRat ≤ r.peakEquity.toRat := by
  have hsome : (Runs.run accountStep none
        [.evaluate equity10000 0 0, .recordRealizedPl equity10000 (.fin (-50)) MS_PER_DAY 1,
         .evaluate equity10000 (8 * MS_PER_DAY) 2]).isSome = true := by decide +kernel
  obtain ⟨r, hr⟩ := Option.isSome_iff_exists.mp hsome
  exact ⟨r, hr, ((account_row_stays_coherent _).1 r hr).2.2.1⟩

/-! ## Stored and recomputed percentages -/

/-- The drawdown quotient in units of `10^-6` percent. -/
def drawdownMicros (baseline current : ℚ) : ℚ := (baseline - current) / baseline * 10 ^ 8

/-- The quotients on which two half-even roundings (ten decimals, then six) part from one
    half-away rounding at six. -/
def PctNearTie (baseline current : ℚ) : Prop :=
  0 < baseline ∧ current < baseline ∧ Rounding.NearTie 10000 (drawdownMicros baseline current)

instance (b c : ℚ) : Decidable (PctNearTie b c) := inferInstanceAs (Decidable (_ ∧ _))

theorem drawdownPctOf_eq_zero {b c : ℚ} (h : ¬ (0 < b ∧ c < b)) : drawdownPctOf b c = 0 := by
  unfold drawdownPctOf
  split
  · rename_i hb
    have hcb : b ≤ c := not_lt.mp fun hlt => h ⟨hb, hlt⟩
    apply max_eq_left
    have : (b - c) / b ≤ 0 := div_nonpos_of_nonpos_of_nonneg (by linarith) hb.le
    linarith
  · rfl

theorem drawdownPctOf_mul {b c : ℚ} (hb : 0 < b) (hc : c < b) :
    drawdownPctOf b c * 10 ^ 6 = drawdownMicros b c := by
  unfold drawdownPctOf drawdownMicros
  have hpos : 0 ≤ (b - c) / b := div_nonneg (by linarith) hb.le
  rw [if_pos hb, max_eq_right (by linarith)]
  ring

theorem drawdownPct_of_not_lt {current baseline : Dec}
    (h : ¬ (0 < baseline.units ∧ current.units < baseline.units))
    (hsub : ∃ d, baseline.sub current = .ok d) : drawdownPct current baseline = .ok Dec.zero := by
  unfold drawdownPct
  split
  · rename_i hb
    obtain ⟨d, hd⟩ := hsub
    rw [hd]
    have hneg : ¬ d.isPositive = true := by
      rw [Dec.isPositive_iff, Dec.sub_ok.mp hd]
      rw [Dec.isPositive_iff] at hb
      omega
    change (if d.isPositive = true then _ else _) = _
    rw [if_neg hneg]
    rfl
  · rfl

/-- The reader's percentage of a real drop is the ten-decimal half-even quotient. -/
theorem drawdownPct_of_lt {current baseline : Dec} (hb : 0 < baseline.units)
    (hc : current.units < baseline.units)
    (hdrop : 100 * (baseline.units - current.units) ≤ 10 ^ 28)
    (hq : Rounding.halfEven (drawdownMicros baseline.toRat current.toRat * 10000) ≤ 10 ^ 28) :
    ∃ d, drawdownPct current baseline = .ok d ∧
      d.units = Rounding.halfEven (drawdownMicros baseline.toRat current.toRat * 10000) := by
  have hM : (MAX_ABS : ℤ) = 10 ^ 28 := by norm_num [MAX_ABS]
  let drop : Dec := ⟨baseline.units - current.units, by zify; rw [hM, abs_of_pos (by omega)]; omega⟩
  let scaled : Dec := ⟨100 * (baseline.units - current.units), by
    zify; rw [hM, abs_of_pos (by omega)]; exact hdrop⟩
  have hqnn : 0 ≤ Rounding.halfEven (drawdownMicros baseline.toRat current.toRat * 10000) := by
    apply Rounding.halfEven_nonneg
    have hbq : 0 < baseline.toRat := div_pos (by exact_mod_cast hb) (by exact_mod_cast Dec.SCALE_pos)
    have hcq : current.toRat ≤ baseline.toRat :=
      div_le_div_of_nonneg_right (by exact_mod_cast hc.le) (by exact_mod_cast Dec.SCALE_pos.le)
    have : 0 ≤ (baseline.toRat - current.toRat) / baseline.toRat := div_nonneg (by linarith) hbq.le
    unfold drawdownMicros
    positivity
  let pct : Dec := ⟨Rounding.halfEven (drawdownMicros baseline.toRat current.toRat * 10000), by
    zify; rw [hM, abs_of_nonneg hqnn]; exact hq⟩
  have hsub : baseline.sub current = .ok drop := Dec.sub_ok.mpr rfl
  have hmul : drop.mul Dec.hundred = .ok scaled := by
    rw [Dec.mul_ok]
    have : (((drop.units * Dec.hundred.units : ℤ) : ℚ) / SCALE) = ((scaled.units : ℤ) : ℚ) := by
      have hs : (SCALE : ℚ) ≠ 0 := by norm_num [SCALE, DEC_SCALE]
      simp only [drop, scaled, Dec.hundred]
      push_cast
      field_simp
    rw [this, Rounding.halfEven_intCast]
  have hdiv : scaled.div baseline = .ok (some pct) := by
    rw [Dec.div_ok hb.ne']
    refine ⟨pct, rfl, ?_⟩
    have hx : drawdownMicros baseline.toRat current.toRat * 10000 =
        ((scaled.units * SCALE : ℤ) : ℚ) / baseline.units := by
      have hbq : (baseline.units : ℚ) ≠ 0 := by exact_mod_cast hb.ne'
      simp only [drawdownMicros, Dec.toRat, scaled]
      norm_num [SCALE, DEC_SCALE]
      field_simp
      ring
    simp only [pct, hx]
  refine ⟨pct, ?_, rfl⟩
  unfold drawdownPct
  rw [if_pos (Dec.isPositive_iff.mpr hb), hsub]
  change (if drop.isPositive = true then _ else _) = _
  rw [if_pos (Dec.isPositive_iff.mpr (by simp only [drop]; omega)), hmul]
  change (scaled.div baseline >>= _) = _
  rw [hdiv]
  rfl

theorem drawdownMicros_nonneg {b c : ℚ} (hb : 0 < b) (hc : c < b) : 0 ≤ drawdownMicros b c := by
  have : 0 ≤ (b - c) / b := div_nonneg (by linarith) hb.le
  unfold drawdownMicros
  positivity

theorem mul_le_of_round_lt {x : ℚ} (h : round x < 10 ^ 10) : x * 10000 ≤ ((10 ^ 15 : ℤ) : ℚ) := by
  have h1 := (abs_le.mp (abs_sub_round x)).2
  have h2 : (round x : ℚ) < 10 ^ 10 := by exact_mod_cast h
  push_cast
  linarith

/-- The reader's value of a real drop: two half-even roundings of the quotient. -/
theorem drawdownPct_roundTo {current baseline : Dec} (hb : 0 < baseline.units)
    (hc : current.units < baseline.units)
    (hdrop : 100 * (baseline.units - current.units) ≤ 10 ^ 28)
    (hround : round (drawdownMicros baseline.toRat current.toRat) < 10 ^ 10) :
    ∃ pct rounded, drawdownPct current baseline = .ok pct ∧ pct.roundTo 6 .halfEven = .ok rounded ∧
      rounded.units = Rounding.halfEven ((Rounding.halfEven
        (drawdownMicros baseline.toRat current.toRat * 10000) : ℚ) / (10000 : ℤ)) * 10 ^ 4 := by
  set x := drawdownMicros baseline.toRat current.toRat with hx
  have hx0 : 0 ≤ x := drawdownMicros_nonneg (Dec.toRat_pos.mpr hb) (Dec.toRat_lt.mpr hc)
  have hfine := Rounding.halfEven_le_of_le (mul_le_of_round_lt hround)
  obtain ⟨pct, hpct, hpu⟩ := drawdownPct_of_lt hb hc hdrop (hfine.trans (by norm_num))
  rw [← hx] at hpu
  set y := Rounding.halfEven ((Rounding.halfEven (x * 10000) : ℚ) / (10000 : ℤ)) with hy
  have hyle : y ≤ 10 ^ 15 := by
    apply Rounding.halfEven_le_of_le
    have : (Rounding.halfEven (x * 10000) : ℚ) ≤ ((10 ^ 15 : ℤ) : ℚ) := by exact_mod_cast hfine
    push_cast at this ⊢
    linarith
  have hy0 : 0 ≤ y := by
    apply Rounding.halfEven_nonneg
    have : (0 : ℚ) ≤ Rounding.halfEven (x * 10000) := by
      exact_mod_cast Rounding.halfEven_nonneg (by positivity)
    exact div_nonneg this (by norm_num)
  have hM : (MAX_ABS : ℤ) = 10 ^ 28 := by norm_num [MAX_ABS]
  refine ⟨pct, ⟨y * 10 ^ 4, by zify; rw [hM, abs_of_nonneg (by omega)]; omega⟩, hpct, ?_, rfl⟩
  rw [Dec.roundTo_ok, hpu]
  rfl

theorem storedPctAgrees_eq {current stored baseline pct rounded : Dec}
    (hpct : drawdownPct current baseline = .ok pct) (hround : pct.roundTo 6 .halfEven = .ok rounded) :
    storedPctAgrees current stored baseline = .ok (decide (stored = rounded)) := by
  unfold storedPctAgrees
  rw [hpct]
  change (pct.roundTo 6 .halfEven >>= _) = _
  rw [hround]
  rfl

/-- **One comparison of the reader** succeeds exactly off the near-tie band, when the stored value
    is what the writer stored for the same baseline and account value. -/
theorem storedPctAgrees_iff {current stored baseline : Dec} {micros : ℤ}
    (hstored : stored.units = micros * 10 ^ 4) (hbound : |micros| < 10 ^ 10)
    (hm : micros = Rounding.halfAway (drawdownPctOf baseline.toRat current.toRat * 10 ^ 6))
    (hb : |baseline.units| ≤ 10 ^ 25) (hc : |current.units| ≤ 10 ^ 25) :
    ∃ v, storedPctAgrees current stored baseline = .ok v ∧
      (v = true ↔ ¬ PctNearTie baseline.toRat current.toRat) := by
  rw [abs_le] at hb hc
  by_cases hlt : 0 < baseline.units ∧ current.units < baseline.units
  · have hbq : 0 < baseline.toRat := Dec.toRat_pos.mpr hlt.1
    have hcq : current.toRat < baseline.toRat := Dec.toRat_lt.mpr hlt.2
    rw [drawdownPctOf_mul hbq hcq, Rounding.halfAway_of_nonneg (drawdownMicros_nonneg hbq hcq)] at hm
    obtain ⟨pct, rounded, hpct, hround, hu⟩ := drawdownPct_roundTo hlt.1 hlt.2 (by omega)
      (hm ▸ (abs_lt.mp hbound).2)
    refine ⟨decide (stored = rounded), storedPctAgrees_eq hpct hround, ?_⟩
    have htie := Rounding.halfEven_halfEven_eq_round_iff
      (x := drawdownMicros baseline.toRat current.toRat) (k := 10000) (by norm_num) (by norm_num)
    have heq : stored = rounded ↔ rounded.units = micros * 10 ^ 4 := by
      rw [← hstored]
      exact ⟨fun h => h ▸ rfl, fun h => Dec.ext h.symm⟩
    rw [decide_eq_true_eq, heq, hu, hm, mul_left_inj' (by norm_num)]
    push_cast at htie ⊢
    rw [htie]
    unfold PctNearTie
    tauto
  · have hltq : ¬ (0 < baseline.toRat ∧ current.toRat < baseline.toRat) := by
      rwa [Dec.toRat_pos, Dec.toRat_lt]
    have hm0 : micros = 0 := by
      rw [hm, drawdownPctOf_eq_zero hltq]
      simp [Rounding.halfAway]
    have hsub : ∃ d, baseline.sub current = .ok d := by
      apply Dec.exists_ofUnits_ok
      have hM : (MAX_ABS : ℤ) = 10 ^ 28 := by norm_num [MAX_ABS]
      zify
      rw [hM, abs_le]
      omega
    have hz : stored = Dec.zero := Dec.ext (by rw [hstored, hm0]; rfl)
    have hround : Dec.zero.roundTo 6 .halfEven = .ok Dec.zero := by decide
    refine ⟨_, storedPctAgrees_eq (drawdownPct_of_not_lt hlt hsub) hround, ?_⟩
    rw [hz]
    unfold PctNearTie
    simp only [decide_true, true_iff]
    tauto

/-- The percentage check of `loadDrawdownInput` on a stored row. -/
def AccountRow.recomputedPctsAgree (r : AccountRow) : Option Bool := do
  let rd ← readAccount r
  let current ← (rd.initial.add rd.cumulative).toOption
  return rd.pctsAgree current

/-- The columns as parsed: every one fits `Dec`, and the account value is their exact sum. -/
theorem readAccount_spec (r : AccountRow) :
    ∃ rd current, readAccount r = some rd ∧ rd.initial.add rd.cumulative = .ok current ∧
      current.toRat = r.accountValue ∧ |current.units| ≤ 10 ^ 25 ∧
      (rd.peak.toRat = r.peakEquity.toRat ∧ |rd.peak.units| ≤ 10 ^ 25) ∧
      (rd.dailyHigh.toRat = r.dailyHighValue.toRat ∧ |rd.dailyHigh.units| ≤ 10 ^ 25) ∧
      (rd.weeklyOpen.toRat = r.weeklyOpenValue.toRat ∧ |rd.weeklyOpen.units| ≤ 10 ^ 25) ∧
      rd.storedCurrentDd.units = r.currentDrawdownPct.units * 10 ^ 4 ∧
      rd.storedDailyDd.units = r.dailyDrawdownPct.units * 10 ^ 4 ∧
      rd.storedWeeklyDd.units = r.weeklyDrawdownPct.units * 10 ^ 4 := by
  have hread : ∀ x : Numeric 18 4, ∃ d, Dec.fromUnknown x = some d ∧ d.toRat = x.toRat ∧
      |d.units| ≤ 10 ^ 24 := by
    intro x
    obtain ⟨d, hd, hu⟩ := Dec.fromUnknown_spec (by decide) x
    refine ⟨d, hd, Dec.toRat_fromUnknown (by decide) hd, ?_⟩
    have hx := abs_lt.mp x.abs_units_lt
    rw [hu, abs_le]
    norm_num [DEC_SCALE]
    omega
  have hpct : ∀ x : Numeric 10 6, ∃ d, Dec.fromUnknown x = some d ∧ d.units = x.units * 10 ^ 4 :=
    fun x => Dec.fromUnknown_spec (by decide) x
  obtain ⟨initial, hi, hiv, hib⟩ := hread r.initialEquity
  obtain ⟨cumulative, hcu, hcv, hcb⟩ := hread r.cumulativeRealizedPl
  obtain ⟨peak, hp, hpv, hpb⟩ := hread r.peakEquity
  obtain ⟨dailyHigh, hd, hdv, hdb⟩ := hread r.dailyHighValue
  obtain ⟨weeklyOpen, hw, hwv, hwb⟩ := hread r.weeklyOpenValue
  obtain ⟨cdd, hcdd, hcddu⟩ := hpct r.currentDrawdownPct
  obtain ⟨ddd, hddd, hdddu⟩ := hpct r.dailyDrawdownPct
  obtain ⟨wdd, hwdd, hwddu⟩ := hpct r.weeklyDrawdownPct
  have hsum : |initial.units + cumulative.units| ≤ 10 ^ 25 :=
    (abs_add_le _ _).trans (by omega)
  have hM : (MAX_ABS : ℤ) = 10 ^ 28 := by norm_num [MAX_ABS]
  let current : Dec := ⟨initial.units + cumulative.units, by zify; rw [hM]; omega⟩
  refine ⟨⟨initial, cumulative, peak, cdd, dailyHigh, ddd, weeklyOpen, wdd⟩, current, ?_,
    Dec.add_ok.mpr rfl, ?_, hsum, ⟨hpv, hpb.trans (by norm_num)⟩,
    ⟨hdv, hdb.trans (by norm_num)⟩, ⟨hwv, hwb.trans (by norm_num)⟩, hcddu, hdddu, hwddu⟩
  · simp only [readAccount, hi, hcu, hp, hd, hw, hcdd, hddd, hwdd]
    rfl
  · unfold AccountRow.accountValue
    rw [← hiv, ← hcv]
    simp only [Dec.toRat, current]
    push_cast
    ring

/-- Three comparisons that do not overflow succeed together exactly when each does. -/
theorem pctsAgree_iff {rd : AccountReading} {current : Dec} {P D W : Prop} {a b c : Bool}
    (ha : storedPctAgrees current rd.storedCurrentDd rd.peak = .ok a) (hP : a = true ↔ P)
    (hb : storedPctAgrees current rd.storedDailyDd rd.dailyHigh = .ok b) (hD : b = true ↔ D)
    (hc : storedPctAgrees current rd.storedWeeklyDd rd.weeklyOpen = .ok c) (hW : c = true ↔ W) :
    rd.pctsAgree current = true ↔ P ∧ D ∧ W := by
  unfold AccountReading.pctsAgree
  rw [ha, hb, hc, ← hP, ← hD, ← hW]
  cases a <;> cases b <;> cases c <;> decide

/-- **The writer and the reader round the same percentages.**  In every row a run produces, the
    three recomputed percentages equal the stored ones exactly when none of the three baselines
    puts its quotient in the near-tie band. -/
theorem stored_pcts_survive_reading_iff (as : List AccountAction) (r : AccountRow)
    (h : Runs.run accountStep none as = some r) :
    r.recomputedPctsAgree = some true ↔
      ¬ PctNearTie r.peakEquity.toRat r.accountValue ∧
      ¬ PctNearTie r.dailyHighValue.toRat r.accountValue ∧
      ¬ PctNearTie r.weeklyOpenValue.toRat r.accountValue := by
  have hinv := rowInv_run as
  rw [h] at hinv
  obtain ⟨-, hpcts⟩ := hinv
  obtain ⟨rd, current, hread, hadd, hcur, hcb, ⟨hpv, hpb⟩, ⟨hdv, hdb⟩, ⟨hwv, hwb⟩, hcdd, hddd, hwdd⟩ :=
    readAccount_spec r
  have hrec : r.recomputedPctsAgree = some (rd.pctsAgree current) := by
    unfold AccountRow.recomputedPctsAgree
    rw [hread]
    simp only [Option.bind_eq_bind, Option.bind_some, hadd]
    rfl
  obtain ⟨a, ha, hP⟩ := storedPctAgrees_iff hcdd (Numeric.abs_units_lt _)
    (by rw [hpv, hcur]; exact hpcts.current) hpb hcb
  obtain ⟨b, hb, hD⟩ := storedPctAgrees_iff hddd (Numeric.abs_units_lt _)
    (by rw [hdv, hcur]; exact hpcts.daily) hdb hcb
  obtain ⟨c, hc, hW⟩ := storedPctAgrees_iff hwdd (Numeric.abs_units_lt _)
    (by rw [hwv, hcur]; exact hpcts.weekly) hwb hcb
  rw [hrec, Option.some.injEq, pctsAgree_iff ha hP hb hD hc hW, hpv, hdv, hwv, hcur]

def equity1638 : PaperEquity := ⟨⟨16384000000000, by decide⟩, by decide +kernel, by decide +kernel⟩

/-- A loss of `0.0256` from `1638.4` is a drawdown of exactly `0.0015625 %`: stored as
    `0.001563`, recomputed as `0.001562`. -/
theorem stored_pct_refused_at_exact_half :
    (Runs.run accountStep none [.recordRealizedPl equity1638 (.fin (-256 / 10000)) 0 0]).map
      AccountRow.recomputedPctsAgree = some (some false) := by
  decide +kernel

/-- A loss of ten percent is far from every tie. -/
theorem stored_pcts_survive_ten_percent_loss :
    ∃ r, Runs.run accountStep none [.recordRealizedPl equity10000 (.fin (-1000)) 0 0] = some r ∧
      r.recomputedPctsAgree = some true := by
  have hsome : ((Runs.run accountStep none
      [.recordRealizedPl equity10000 (.fin (-1000)) 0 0]).any fun r =>
        !decide (PctNearTie r.peakEquity.toRat r.accountValue) &&
        !decide (PctNearTie r.dailyHighValue.toRat r.accountValue) &&
        !decide (PctNearTie r.weeklyOpenValue.toRat r.accountValue)) = true := by
    decide +kernel
  obtain ⟨r, hr, hties⟩ := (Option.any_eq_true _ _).mp hsome
  simp only [Bool.and_eq_true, Bool.not_eq_true', decide_eq_false_iff_not] at hties
  exact ⟨r, hr, (stored_pcts_survive_reading_iff _ r hr).mpr ⟨hties.1.1, hties.1.2, hties.2⟩⟩

/-! ## The position ledger -/

/-- A profile's account row and the `realized_pl` of its closed positions. -/
structure LedgerState where
  account : Option AccountRow
  closed : List (Option (Numeric 24 10))

inductive LedgerAction where
  | close (policy : Option PaperEquity) (net : Dec) (nowMs dbNow : ℤ)
  | evaluate (policy : PaperEquity) (nowMs dbNow : ℤ)

/-- The ledger part of a paper close: `realized_pl = net.toFixed(10)` on the position and
    `net.toNumber(10)` posted to the account, in one transaction. -/
def LedgerState.close (s : LedgerState) (policy : Option PaperEquity) (net : Dec)
    (nowMs dbNow : ℤ) : Except AccountError LedgerState := do
  let realizedPl ← store 24 10 net.toRat
  let row ← recordRealizedPlInTransaction s.account policy (.fin net.toRat) nowMs dbNow
  return ⟨some row, s.closed ++ [some realizedPl]⟩

def ledgerStep (s : LedgerState) : LedgerAction → LedgerState
  | .close policy net nowMs dbNow =>
    match s.close policy net nowMs dbNow with
    | .ok s' => s'
    | .error _ => s
  | .evaluate policy nowMs dbNow =>
    { s with account := accountStep s.account (.evaluate policy nowMs dbNow) }

/-- The ledger comparison as `loadDrawdownInput` makes it. -/
def LedgerState.agrees (s : LedgerState) : Bool :=
  match s.account.bind fun r => Dec.fromUnknown r.cumulativeRealizedPl with
  | some cumulative => ledgerAgrees s.closed cumulative
  | none => s.closed.isEmpty

/-- The exact sum of the realized P&L, in units of `10^-10`. -/
def realizedUnits (closed : List (Option (Numeric 24 10))) : ℤ :=
  ((closed.filterMap id).map Numeric.units).sum

theorem realizedUnits_append (closed : List (Option (Numeric 24 10))) (x : Numeric 24 10) :
    realizedUnits (closed ++ [some x]) = realizedUnits closed + x.units := by
  simp [realizedUnits]

theorem sum_toRat (closed : List (Option (Numeric 24 10))) :
    ((closed.filterMap id).map Numeric.toRat).sum = realizedUnits closed / 10 ^ 10 := by
  unfold realizedUnits
  induction closed.filterMap id with
  | nil => simp
  | cons x xs ih =>
    simp only [List.map_cons, List.sum_cons, ih]
    push_cast
    unfold Numeric.toRat
    ring

/-- The invariant behind the agreement: the stored cumulative P&L is the exact sum rounded once. -/
structure LedgerInv (s : LedgerState) : Prop where
  row : RowInv s.account
  all_some : s.closed.all Option.isSome = true
  none_empty : s.account = none → s.closed = []
  rounded : ∀ r, s.account = some r →
    r.cumulativeRealizedPl.units = Rounding.halfAway ((realizedUnits s.closed : ℚ) / 10 ^ 6)

/-- The exact sum of the closed positions has at most four decimals. -/
def WholeSum (s : LedgerState) : Prop := (10 ^ 6 : ℤ) ∣ realizedUnits s.closed

instance (s : LedgerState) : Decidable (WholeSum s) := inferInstanceAs (Decidable (_ ∣ _))

/-- The condition on a close: nothing below `10^-4` is pending in the sum so far. -/
def closesOnWholeSum (s : LedgerState) : LedgerAction → Prop
  | .close .. => WholeSum s
  | .evaluate .. => True

instance (s : LedgerState) : (a : LedgerAction) → Decidable (closesOnWholeSum s a)
  | .close .. => inferInstanceAs (Decidable (WholeSum s))
  | .evaluate .. => inferInstanceAs (Decidable True)

theorem units_of_store_toRat {net : Dec} {x : Numeric 24 10} (h : store 24 10 net.toRat = .ok x) :
    x.units = net.units := by
  have hq : net.toRat = (net.units : ℚ) / 10 ^ 10 := by
    unfold Dec.toRat
    norm_num [SCALE, DEC_SCALE]
  rw [hq, store_ok] at h
  exact Numeric.units_of_ofRat?_div h

theorem units_of_fromNumber_toRat {net d : Dec} (h : Dec.fromNumber (.fin net.toRat) = some d) :
    d.units = net.units := by
  rw [Dec.fromNumber_eq_some h]
  unfold Dec.toRat
  have : (net.units : ℚ) / SCALE * 10 ^ DEC_SCALE = net.units := by
    have : (SCALE : ℚ) = 10 ^ DEC_SCALE := by norm_num [SCALE]
    rw [this]
    exact div_mul_cancel₀ _ (by positivity)
  rw [this, Rounding.halfAway_intCast]

theorem LedgerInv.cumulative_eq {s : LedgerState} (h : LedgerInv s) (hw : WholeSum s)
    {r₀ : AccountRow} (hbase : Base s.account r₀) :
    r₀.cumulativeRealizedPl.units * 10 ^ 6 = realizedUnits s.closed := by
  cases hacc : s.account with
  | none =>
    rw [hacc] at hbase
    rw [hbase.2.1, h.none_empty hacc]
    rfl
  | some r =>
    rw [hacc] at hbase
    cases hbase
    obtain ⟨k, hk⟩ := hw
    have hround := h.rounded r₀ hacc
    rw [hk] at hround ⊢
    have : (((10 ^ 6 * k : ℤ) : ℚ) / 10 ^ 6) = (k : ℚ) := by
      push_cast
      field_simp
      ring
    rw [this, Rounding.halfAway_intCast] at hround
    rw [hround]
    ring

theorem LedgerInv.close {s s' : LedgerState} {policy : Option PaperEquity} {net : Dec}
    {nowMs dbNow : ℤ} (h : LedgerInv s) (hw : WholeSum s)
    (hc : s.close policy net nowMs dbNow = .ok s') : LedgerInv s' := by
  simp only [LedgerState.close, Except.bind_ok_iff] at hc
  obtain ⟨realizedPl, hstore, row, hrec, hs'⟩ := hc
  cases hs'
  simp only [recordRealizedPlInTransaction, Except.bind_ok_iff] at hrec
  obtain ⟨r₁, hload, hpost⟩ := hrec
  obtain ⟨r₀, hbase, hroll⟩ := loadOrCreateAccountState_ok h.row (policyEquity_ge policy) hload
  obtain ⟨d, hd, hposted⟩ := postRealizedPl_ok hpost
  refine ⟨(Written.posted r₁ d hroll hposted).inv (hbase.inv h.row), ?_, ?_, ?_⟩
  · simp only [List.all_append, h.all_some]
    rfl
  · intro hn
    cases hn
  · intro r hr
    cases hr
    rw [hposted.cumulative, hroll.cumulative, h.cumulative_eq hw hbase, realizedUnits_append,
      units_of_store_toRat hstore, units_of_fromNumber_toRat hd]

theorem LedgerInv.evaluate {s : LedgerState} (h : LedgerInv s) (policy : PaperEquity)
    (nowMs dbNow : ℤ) : LedgerInv (ledgerStep s (.evaluate policy nowMs dbNow)) := by
  refine ⟨rowInv_step _ _ h.row, h.all_some, ?_, ?_⟩
  · intro hn
    apply h.none_empty
    change accountStep s.account _ = none at hn
    unfold accountStep at hn
    split at hn
    · cases hn
    · exact hn
  · intro r hr
    change accountStep s.account _ = some r at hr
    unfold accountStep at hr
    split at hr
    · rename_i r' hload
      cases hr
      obtain ⟨r₀, hbase, hroll⟩ := loadOrCreateAccountState_ok h.row policy.ge_min hload
      change r.cumulativeRealizedPl.units = Rounding.halfAway ((realizedUnits s.closed : ℚ) / 10 ^ 6)
      rw [hroll.cumulative]
      cases hacc : s.account with
      | none =>
        rw [hacc] at hbase
        rw [hbase.2.1, h.none_empty hacc]
        simp [realizedUnits, Rounding.halfAway]
      | some r₂ =>
        rw [hacc] at hbase
        cases hbase
        exact h.rounded r₀ hacc
    · exact h.rounded r hr

theorem ledgerInv_step (s : LedgerState) (a : LedgerAction) (h : LedgerInv s)
    (hok : closesOnWholeSum s a) : LedgerInv (ledgerStep s a) := by
  cases a with
  | close policy net nowMs dbNow =>
    simp only [ledgerStep]
    split
    · rename_i s' hs'
      exact h.close hok hs'
    · exact h
  | evaluate policy nowMs dbNow => exact h.evaluate policy nowMs dbNow

theorem LedgerInv.agrees {s : LedgerState} (h : LedgerInv s) : s.agrees = true := by
  unfold LedgerState.agrees
  cases hacc : s.account with
  | none => simp [h.none_empty hacc]
  | some r =>
    obtain ⟨d, hd, hu⟩ := Dec.fromUnknown_spec (by decide) r.cumulativeRealizedPl
    simp only [Option.bind_some, hd]
    have hsum : closedSum s.closed = some d := by
      have hx : ((s.closed.filterMap id).map Numeric.toRat).sum * 10000 =
          (realizedUnits s.closed : ℚ) / 10 ^ 6 := by
        rw [sum_toRat]
        ring
      have hunits : Rounding.halfAway ((realizedUnits s.closed : ℚ) / 10 ^ 6) * 10 ^ 6 = d.units := by
        rw [← h.rounded r hacc, hu]
        rfl
      have hlt : d.units.natAbs < MAX_ABS := by
        rw [hu]
        have hx := abs_lt.mp r.cumulativeRealizedPl.abs_units_lt
        norm_num [DEC_SCALE, MAX_ABS]
        omega
      simp only [closedSum, hx, hunits]
      rw [dif_pos hlt]
    simp [ledgerAgrees, hsum, h.all_some]

/-- **The books agree while no fraction is pending.**  In every run whose closes all start from a
    sum of realized P&L with at most four decimals, in every state the run goes through: the
    stored cumulative P&L is the exact sum rounded to four decimals, and the reader's comparison
    succeeds. -/
theorem ledger_agrees_while_sums_are_whole (as : List LedgerAction)
    (hok : Runs.Meets ledgerStep closesOnWholeSum ⟨none, []⟩ as) (s : LedgerState)
    (hs : Runs.Reached ledgerStep ⟨none, []⟩ as s) :
    s.agrees = true ∧ ∀ r, s.account = some r →
      r.cumulativeRealizedPl.toRat =
        Rounding.halfAway (((s.closed.filterMap id).map Numeric.toRat).sum * 10000) / 10000 := by
  have h₀ : LedgerInv ⟨none, []⟩ :=
    ⟨trivial, rfl, fun _ => rfl, fun r hr => by cases hr⟩
  have hinv := Runs.inv_of_reached ledgerStep ledgerInv_step h₀ hok hs
  refine ⟨hinv.agrees, fun r hr => ?_⟩
  have hx : ((s.closed.filterMap id).map Numeric.toRat).sum * 10000 =
      (realizedUnits s.closed : ℚ) / 10 ^ 6 := by
    rw [sum_toRat]
    ring
  rw [hx, ← hinv.rounded r hr]
  unfold Numeric.toRat
  norm_num

/-- Two closes of `0.00004`: the account keeps `0`, the rounded sum is `0.0001`. -/
theorem ledger_parts_after_two_fractions :
    (Runs.run ledgerStep ⟨none, []⟩
      [.close equity10000 ⟨400000, by decide⟩ 0 0,
       .close equity10000 ⟨400000, by decide⟩ 0 0]).agrees = false := by
  decide +kernel

/-- A win of `12.34` and a loss of `0.00004`. -/
theorem ledger_agrees_after_win_and_fraction :
    (Runs.run ledgerStep ⟨none, []⟩
      [.close equity10000 ⟨123400000000, by decide⟩ 0 0,
       .close equity10000 ⟨-400000, by decide⟩ 0 0]).agrees = true :=
  (ledger_agrees_while_sums_are_whole _ (by decide +kernel) _
    (Runs.reached_last ledgerStep _ _)).1

end VeltrixEye
