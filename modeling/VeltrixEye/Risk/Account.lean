import VeltrixEye.Risk.Contracts

/-!
# The risk account state (`risk/service.ts`, table `risk_account_states`)

One row per execution profile.  `loadOrCreateAccountState` creates it, initialises rows that
predate drawdown tracking and rolls the UTC day and week windows; `recordRealizedPlInTransaction`
posts a realized P&L; `loadDrawdownInput` re-derives what the row claims and refuses it on any
disagreement.  JavaScript arithmetic is exact; every column write rounds to the column's scale.

A row is written by three functions only, so a run of the service is a list of `AccountAction`s
over `Option AccountRow`; a transaction that throws leaves the row as it was.
-/

namespace VeltrixEye

/-! ## Rows and clocks -/

/-- `risk_account_states`.  Dates are day numbers counted from 1970-01-01. -/
structure AccountRow where
  dailyWindowStart : ℤ
  weeklyWindowStart : ℤ
  dailyRealizedPl : Numeric 24 10
  weeklyRealizedPl : Numeric 24 10
  consecutiveLosses : ℕ
  initialEquity : Numeric 18 4
  peakEquity : Numeric 18 4
  currentDrawdownPct : Numeric 10 6
  dailyHighValue : Numeric 18 4
  dailyDrawdownPct : Numeric 10 6
  weeklyOpenValue : Numeric 18 4
  weeklyDrawdownPct : Numeric 10 6
  cumulativeRealizedPl : Numeric 18 4
  equityInitialized : Bool
  updatedAt : ℤ

/-- What the account writers throw. -/
inductive AccountError where
  | plNotFinite
  | plNotRepresentable
  | contradictoryData
  | decimalOverflow
  | numericFieldOverflow
  deriving DecidableEq

/-- A paper equity as `risk_policies` stores it, inside the column's CHECK. -/
structure PaperEquity where
  value : Numeric 24 10
  ge_min : 100 ≤ value.toRat
  le_max : value.toRat ≤ 1000000

def MS_PER_DAY : ℤ := 86400000

/-- `utcDateParts(ms).day`. -/
def utcDay (ms : ℤ) : ℤ := ms / MS_PER_DAY

/-- `mondayUtc`: 1970-01-01 was a Thursday. -/
def mondayUtc (ms : ℤ) : ℤ := utcDay ms - (utcDay ms + 3) % 7

/-- `Math.trunc`. -/
def mathTrunc (q : ℚ) : ℤ := if 0 ≤ q then ⌊q⌋ else ⌈q⌉

/-- `conservativeStoredEquity` on a finite number. -/
def conservativeStoredEquity (value : ℚ) : ℚ := mathTrunc (value * 10000) / 10000

/-- A column write, as the statement that carries it sees the error. -/
def store (p s : ℕ) (q : ℚ) : Except AccountError (Numeric p s) :=
  match Numeric.ofRat? p s q with
  | some x => .ok x
  | none => .error .numericFieldOverflow

/-- The percentage formula every writer of the row uses. -/
def drawdownPctOf (baseline current : ℚ) : ℚ :=
  if 0 < baseline then max 0 ((baseline - current) / baseline * 100) else 0

/-! ## Writers -/

/-- `INSERT INTO risk_account_states … VALUES (…, $5, $5, $5, $5, true)`. -/
def insertAccountState (nowMs dbNow : ℤ) (paperEquity : ℚ) : Except AccountError AccountRow := do
  let equityInit ← store 18 4 (conservativeStoredEquity paperEquity)
  return {
    dailyWindowStart := utcDay nowMs
    weeklyWindowStart := mondayUtc nowMs
    dailyRealizedPl := 0
    weeklyRealizedPl := 0
    consecutiveLosses := 0
    initialEquity := equityInit
    peakEquity := equityInit
    currentDrawdownPct := 0
    dailyHighValue := equityInit
    dailyDrawdownPct := 0
    weeklyOpenValue := equityInit
    weeklyDrawdownPct := 0
    cumulativeRealizedPl := 0
    equityInitialized := true
    updatedAt := dbNow }

/-- Rows that predate drawdown tracking: the policy value and the recorded losses, never an
    uplift.  An unusable baseline leaves the row uninitialised. -/
def initializeBaselines (row : AccountRow) (dbNow : ℤ) (paperEquity : ℚ) :
    Except AccountError AccountRow :=
  let baseline := conservativeStoredEquity paperEquity
  if row.equityInitialized then .ok row
  else if 0 < baseline then do
    let conservativeLoss := min 0 (min row.cumulativeRealizedPl.toRat
      (min row.dailyRealizedPl.toRat row.weeklyRealizedPl.toRat))
    let stored ← store 18 4 baseline
    let pct ← store 10 6 (drawdownPctOf baseline (baseline + conservativeLoss))
    return { row with
      initialEquity := stored
      peakEquity := stored
      dailyHighValue := stored
      weeklyOpenValue := stored
      currentDrawdownPct := pct
      dailyDrawdownPct := pct
      weeklyDrawdownPct := pct
      equityInitialized := true
      updatedAt := dbNow }
  else .ok row

/-- The window rollover: a new UTC day resets the daily P&L and high, a new week the weekly P&L
    and open, and either one rewrites all three percentages. -/
def rollWindows (row : AccountRow) (nowMs dbNow : ℤ) (paperEquity : ℚ) :
    Except AccountError AccountRow :=
  let pe := if 0 < row.initialEquity.toRat then row.initialEquity.toRat else paperEquity
  let current := pe + row.cumulativeRealizedPl.toRat
  let sameDay := row.dailyWindowStart = utcDay nowMs
  let sameWeek := row.weeklyWindowStart = mondayUtc nowMs
  let dailyHigh := if sameDay then row.dailyHighValue.toRat else current
  let weeklyOpen := if sameWeek then row.weeklyOpenValue.toRat else current
  if sameDay ∧ sameWeek then .ok row
  else do
    let dailyHighValue ← store 18 4 dailyHigh
    let weeklyOpenValue ← store 18 4 weeklyOpen
    let currentDd ← store 10 6 (drawdownPctOf row.peakEquity.toRat current)
    let dailyDd ← store 10 6 (drawdownPctOf dailyHigh current)
    let weeklyDd ← store 10 6 (drawdownPctOf weeklyOpen current)
    return { row with
      dailyRealizedPl := if sameDay then row.dailyRealizedPl else 0
      weeklyRealizedPl := if sameWeek then row.weeklyRealizedPl else 0
      dailyWindowStart := utcDay nowMs
      weeklyWindowStart := mondayUtc nowMs
      dailyHighValue
      weeklyOpenValue
      currentDrawdownPct := currentDd
      dailyDrawdownPct := dailyDd
      weeklyDrawdownPct := weeklyDd
      updatedAt := dbNow }

/-- `SELECT … FOR UPDATE`, else the insert. -/
def selectOrInsert (existing : Option AccountRow) (nowMs dbNow : ℤ) (paperEquity : ℚ) :
    Except AccountError AccountRow :=
  match existing with
  | some row => .ok row
  | none => insertAccountState nowMs dbNow paperEquity

/-- `loadOrCreateAccountState`, on the row the profile has (if any). -/
def loadOrCreateAccountState (existing : Option AccountRow) (nowMs dbNow : ℤ) (paperEquity : ℚ) :
    Except AccountError AccountRow := do
  let row ← selectOrInsert existing nowMs dbNow paperEquity
  let row ← initializeBaselines row dbNow paperEquity
  rollWindows row nowMs dbNow paperEquity

/-- `initial_equity + cumulative_realized_pl`. -/
def AccountRow.accountValue (r : AccountRow) : ℚ := r.initialEquity.toRat + r.cumulativeRealizedPl.toRat

/-- The relational check in front of every P&L posting. -/
def AccountRow.contradictory (r : AccountRow) : Prop :=
  ¬ 0 < r.initialEquity.toRat ∨ r.peakEquity.toRat < r.accountValue ∨
    r.dailyHighValue.toRat < r.accountValue ∨ r.peakEquity.toRat < r.dailyHighValue.toRat ∨
    r.peakEquity.toRat < r.weeklyOpenValue.toRat

instance (r : AccountRow) : Decidable r.contradictory :=
  inferInstanceAs (Decidable (_ ∨ _))

/-- `Dec` arithmetic inside the account transaction. -/
def liftCalc {α : Type} : Calc α → Except AccountError α
  | .ok a => .ok a
  | .error _ => .error .decimalOverflow

/-- The posting itself, on the loaded row: `nextCumulative` is quantised to the column's four
    decimals before the peaks and percentages are derived from it. -/
def postRealizedPl (state : AccountRow) (pl : ℚ) (dbNow : ℤ) : Except AccountError AccountRow :=
  match Dec.fromNumber (.fin state.cumulativeRealizedPl.toRat), Dec.fromNumber (.fin pl) with
  | some previousCumulativeDec, some realizedPlDec => do
    let raw ← liftCalc (previousCumulativeDec.add realizedPlDec)
    let nextCumulative : ℚ := Rounding.halfAway (raw.toRat * 10000) / 10000
    let initialEquity := state.initialEquity.toRat
    let currentAccountValue := initialEquity + nextCumulative
    if state.contradictory then .error .contradictoryData
    else do
      let newPeak := max state.peakEquity.toRat currentAccountValue
      let newDailyHigh := max state.dailyHighValue.toRat currentAccountValue
      let dailyRealizedPl ← store 24 10 (state.dailyRealizedPl.toRat + pl)
      let weeklyRealizedPl ← store 24 10 (state.weeklyRealizedPl.toRat + pl)
      let cumulativeRealizedPl ← store 18 4 nextCumulative
      let peakEquity ← store 18 4 newPeak
      let dailyHighValue ← store 18 4 newDailyHigh
      let currentDd ← store 10 6 (drawdownPctOf newPeak currentAccountValue)
      let dailyDd ← store 10 6 (drawdownPctOf newDailyHigh currentAccountValue)
      let weeklyDd ← store 10 6 (drawdownPctOf state.weeklyOpenValue.toRat currentAccountValue)
      return { state with
        dailyRealizedPl
        weeklyRealizedPl
        consecutiveLosses := if pl < 0 then state.consecutiveLosses + 1 else 0
        cumulativeRealizedPl
        peakEquity
        dailyHighValue
        currentDrawdownPct := currentDd
        dailyDrawdownPct := dailyDd
        weeklyDrawdownPct := weeklyDd
        equityInitialized := true
        updatedAt := dbNow }
  | _, _ => .error .plNotRepresentable

/-- `recordRealizedPlInTransaction`; the policy row may be missing. -/
def recordRealizedPlInTransaction (existing : Option AccountRow) (policy : Option PaperEquity)
    (realizedPl : JsNumber) (nowMs dbNow : ℤ) : Except AccountError AccountRow :=
  match realizedPl with
  | .fin pl => do
    let pe := (policy.map fun p => p.value.toRat).getD PLATFORM_RISK_CEILINGS.defaultPaperEquity
    let state ← loadOrCreateAccountState existing nowMs dbNow pe
    postRealizedPl state pl dbNow
  | _ => .error .plNotFinite

/-! ## The reader -/

/-- The drawdown part of `RiskEngineInput`. -/
structure DrawdownInput where
  currentAccountValue : Dec
  peakEquity : Dec
  dailyHighValue : Dec
  weeklyOpenValue : Dec
  initialized : Bool
  deriving DecidableEq

def RISK_ACCOUNT_STATE_STALE_MS : ℤ := 24 * 60 * 60 * 1000

/-- `drawdownPct` of `loadDrawdownInput`. -/
def drawdownPct (current baseline : Dec) : Calc Dec :=
  if baseline.isPositive then do
    let drop ← baseline.sub current
    if drop.isPositive then do
      let scaled ← drop.mul Dec.hundred
      let pct ← scaled.div baseline
      return pct.getD Dec.zero
    else return Dec.zero
  else return Dec.zero

/-- `stored.eq(drawdownPct(baseline).roundTo(6, 'half_even'))`. -/
def storedPctAgrees (current stored baseline : Dec) : Calc Bool := do
  let pct ← drawdownPct current baseline
  let rounded ← pct.roundTo 6 .halfEven
  return decide (stored = rounded)

/-- The account columns as `loadDrawdownInput` parses them. -/
structure AccountReading where
  initial : Dec
  cumulative : Dec
  peak : Dec
  storedCurrentDd : Dec
  dailyHigh : Dec
  storedDailyDd : Dec
  weeklyOpen : Dec
  storedWeeklyDd : Dec

def readAccount (account : AccountRow) : Option AccountReading := do
  let initial ← Dec.fromUnknown account.initialEquity
  let cumulative ← Dec.fromUnknown account.cumulativeRealizedPl
  let peak ← Dec.fromUnknown account.peakEquity
  let storedCurrentDd ← Dec.fromUnknown account.currentDrawdownPct
  let dailyHigh ← Dec.fromUnknown account.dailyHighValue
  let storedDailyDd ← Dec.fromUnknown account.dailyDrawdownPct
  let weeklyOpen ← Dec.fromUnknown account.weeklyOpenValue
  let storedWeeklyDd ← Dec.fromUnknown account.weeklyDrawdownPct
  return { initial, cumulative, peak, storedCurrentDd, dailyHigh, storedDailyDd, weeklyOpen,
           storedWeeklyDd }

/-- The three percentage comparisons; a thrown overflow counts as a disagreement. -/
def AccountReading.pctsAgree (rd : AccountReading) (current : Dec) : Bool :=
  match (do
    if ← storedPctAgrees current rd.storedCurrentDd rd.peak then
      if ← storedPctAgrees current rd.storedDailyDd rd.dailyHigh then
        storedPctAgrees current rd.storedWeeklyDd rd.weeklyOpen
      else return false
    else return false : Calc Bool) with
  | .ok b => b
  | .error _ => false

/-- `round(coalesce(sum(realized_pl), 0), 4)` over the closed positions. -/
def closedSum (closed : List (Option (Numeric 24 10))) : Option Dec :=
  let sum : ℚ := ((closed.filterMap id).map Numeric.toRat).sum
  let u := Rounding.halfAway (sum * 10000) * 10 ^ 6
  if h : u.natAbs < MAX_ABS then some ⟨u, h.le⟩ else none

/-- The ledger comparison: every closed position has a realized P&L, and once one exists the
    rounded sum is the stored cumulative P&L. -/
def ledgerAgrees (closed : List (Option (Numeric 24 10))) (cumulative : Dec) : Bool :=
  match closedSum closed with
  | none => false
  | some sum => closed.all Option.isSome && (closed.isEmpty || decide (sum = cumulative))

/-- `loadDrawdownInput`; `null` makes the engine reject with `EQUITY_DATA_UNAVAILABLE`. -/
def loadDrawdownInput (account : AccountRow) (equity : Dec) (nowMs : ℤ)
    (closed : List (Option (Numeric 24 10))) : Option DrawdownInput := do
  guard account.equityInitialized
  let rd ← readAccount account
  guard (rd.initial.isPositive ∧ rd.peak.isPositive ∧ rd.dailyHigh.isPositive ∧
    rd.weeklyOpen.isPositive)
  guard (nowMs - RISK_ACCOUNT_STATE_STALE_MS ≤ account.updatedAt)
  let current ← (rd.initial.add rd.cumulative).toOption
  -- a tracked profile must use its immutable baseline
  guard (equity = rd.initial)
  guard (current ≤ rd.peak ∧ current ≤ rd.dailyHigh ∧ rd.weeklyOpen ≤ rd.peak ∧
    rd.dailyHigh ≤ rd.peak)
  guard (rd.pctsAgree current)
  guard (ledgerAgrees closed rd.cumulative)
  return ⟨current, rd.peak, rd.dailyHigh, rd.weeklyOpen, true⟩

/-! ## What a write changes -/

theorem store_ok {p s : ℕ} {q : ℚ} {x : Numeric p s} :
    store p s q = .ok x ↔ Numeric.ofRat? p s q = some x := by
  unfold store
  split
  · rename_i y hy
    rw [hy, Except.ok.injEq, Option.some.injEq]
  · rename_i hy
    rw [hy]
    constructor <;> intro h <;> cases h

theorem toRat_of_store {p s : ℕ} {q : ℚ} {x : Numeric p s} (hq : Numeric.OnGrid s q)
    (h : store p s q = .ok x) : x.toRat = q :=
  Numeric.toRat_of_ofRat? hq (store_ok.mp h)

theorem units_of_store {p s : ℕ} {q : ℚ} {x : Numeric p s} (h : store p s q = .ok x) :
    x.units = Rounding.halfAway (q * 10 ^ s) :=
  Numeric.ofRat?_eq_some.mp (store_ok.mp h)

namespace AccountRow

theorem onGrid_accountValue (r : AccountRow) : Numeric.OnGrid 4 r.accountValue :=
  (Numeric.onGrid_toRat _).add (Numeric.onGrid_toRat _)

/-- The stored percentages are the writers' formula on the row's own fields. -/
structure PctsWritten (r : AccountRow) : Prop where
  current : r.currentDrawdownPct.units =
    Rounding.halfAway (drawdownPctOf r.peakEquity.toRat r.accountValue * 10 ^ 6)
  daily : r.dailyDrawdownPct.units =
    Rounding.halfAway (drawdownPctOf r.dailyHighValue.toRat r.accountValue * 10 ^ 6)
  weekly : r.weeklyDrawdownPct.units =
    Rounding.halfAway (drawdownPctOf r.weeklyOpenValue.toRat r.accountValue * 10 ^ 6)

/-- The relations between the equity columns. -/
structure Coherent (r : AccountRow) : Prop where
  initialized : r.equityInitialized = true
  initial_pos : 0 < r.initialEquity.toRat
  value_le_dailyHigh : r.accountValue ≤ r.dailyHighValue.toRat
  dailyHigh_le_peak : r.dailyHighValue.toRat ≤ r.peakEquity.toRat
  weeklyOpen_le_peak : r.weeklyOpenValue.toRat ≤ r.peakEquity.toRat

theorem Coherent.value_le_peak {r : AccountRow} (h : r.Coherent) :
    r.accountValue ≤ r.peakEquity.toRat := h.value_le_dailyHigh.trans h.dailyHigh_le_peak

theorem Coherent.not_contradictory {r : AccountRow} (h : r.Coherent) : ¬ r.contradictory := by
  unfold contradictory
  push Not
  exact ⟨h.initial_pos, h.value_le_peak, h.value_le_dailyHigh, h.dailyHigh_le_peak,
    h.weeklyOpen_le_peak⟩

end AccountRow

/-- Everything a window rollover leaves and may change. -/
structure Rolled (r r' : AccountRow) : Prop where
  initialEquity : r'.initialEquity = r.initialEquity
  cumulative : r'.cumulativeRealizedPl = r.cumulativeRealizedPl
  peak : r'.peakEquity = r.peakEquity
  initialized : r'.equityInitialized = r.equityInitialized
  dailyHigh : r'.dailyHighValue = r.dailyHighValue ∨ r'.dailyHighValue.toRat = r.accountValue
  weeklyOpen : r'.weeklyOpenValue = r.weeklyOpenValue ∨ r'.weeklyOpenValue.toRat = r.accountValue
  pcts : r' = r ∨ r'.PctsWritten

theorem Rolled.accountValue {r r' : AccountRow} (h : Rolled r r') :
    r'.accountValue = r.accountValue := by
  unfold AccountRow.accountValue
  rw [h.initialEquity, h.cumulative]

/-- **A rollover** keeps the baseline, the cumulative P&L and the peak, and moves each window's
    baseline only to the account value. -/
theorem rollWindows_ok {r r' : AccountRow} {nowMs dbNow : ℤ} {pe : ℚ}
    (hpos : 0 < r.initialEquity.toRat) (h : rollWindows r nowMs dbNow pe = .ok r') :
    Rolled r r' := by
  unfold rollWindows at h
  simp only [if_pos hpos] at h
  change (if _ then _ else _) = _ at h
  split at h
  · cases h
    exact ⟨rfl, rfl, rfl, rfl, .inl rfl, .inl rfl, .inl rfl⟩
  · simp only [Except.bind_ok_iff] at h
    obtain ⟨high, hhigh, wopen, hwopen, cdd, hcdd, ddd, hddd, wdd, hwdd, h⟩ := h
    cases h
    have hgrid := r.onGrid_accountValue
    have hhigh' := toRat_of_store ((Numeric.onGrid_toRat _).ite hgrid) hhigh
    have hwopen' := toRat_of_store ((Numeric.onGrid_toRat _).ite hgrid) hwopen
    refine ⟨rfl, rfl, rfl, rfl, ?_, ?_, .inr ⟨units_of_store hcdd, ?_, ?_⟩⟩
    · split at hhigh'
      · exact .inl (Numeric.toRat_eq_iff.mp hhigh')
      · exact .inr hhigh'
    · split at hwopen'
      · exact .inl (Numeric.toRat_eq_iff.mp hwopen')
      · exact .inr hwopen'
    · rw [units_of_store hddd, hhigh']
      rfl
    · rw [units_of_store hwdd, hwopen']
      rfl

/-- Everything a posted P&L changes in the drawdown columns. -/
structure Posted (r : AccountRow) (d : Dec) (r' : AccountRow) : Prop where
  initialEquity : r'.initialEquity = r.initialEquity
  cumulative : r'.cumulativeRealizedPl.units =
    Rounding.halfAway (((r.cumulativeRealizedPl.units * 10 ^ 6 + d.units : ℤ) : ℚ) / 10 ^ 6)
  initial_pos : 0 < r.initialEquity.toRat
  peak : r'.peakEquity.toRat = max r.peakEquity.toRat r'.accountValue
  dailyHigh : r'.dailyHighValue.toRat = max r.dailyHighValue.toRat r'.accountValue
  weeklyOpen : r'.weeklyOpenValue = r.weeklyOpenValue
  initialized : r'.equityInitialized = true
  pcts : r'.PctsWritten

/-- **A posting** quantises the new cumulative P&L once and derives every other column from it. -/
theorem postRealizedPl_ok {r r' : AccountRow} {pl : ℚ} {dbNow : ℤ}
    (h : postRealizedPl r pl dbNow = .ok r') :
    ∃ d, Dec.fromNumber (.fin pl) = some d ∧ Posted r d r' := by
  unfold postRealizedPl at h
  split at h
  · rename_i prev d hprev hd
    rw [Dec.fromNumber_toRat (by decide)] at hprev
    obtain ⟨prev', hprev', hpu⟩ := Dec.fromUnknown_spec (by decide) r.cumulativeRealizedPl
    rw [hprev, Option.some.injEq] at hprev'
    subst hprev'
    simp only [Except.bind_ok_iff] at h
    obtain ⟨raw, hraw, h⟩ := h
    have hrawu : raw.units = prev.units + d.units := by
      unfold liftCalc at hraw
      split at hraw
      · rename_i a ha
        cases hraw
        exact Dec.add_ok.mp ha
      · cases hraw
    split at h
    · cases h
    rename_i hnc
    simp only [Except.bind_ok_iff] at h
    obtain ⟨dpl, -, wpl, -, cum, hcum, peak, hpeak, high, hhigh, cdd, hcdd, ddd, hddd, wdd, hwdd, h⟩ := h
    cases h
    have hgridCum : Numeric.OnGrid 4 ((Rounding.halfAway (raw.toRat * 10000) : ℤ) / 10000 : ℚ) :=
      ⟨Rounding.halfAway (raw.toRat * 10000), by norm_num⟩
    have hcum' := toRat_of_store hgridCum hcum
    have hvalue := (Numeric.onGrid_toRat r.initialEquity).add hgridCum
    have hpeak' := toRat_of_store ((Numeric.onGrid_toRat _).max hvalue) hpeak
    have hhigh' := toRat_of_store ((Numeric.onGrid_toRat _).max hvalue) hhigh
    have hpos : 0 < r.initialEquity.toRat := by
      by_contra hn
      exact hnc (.inl hn)
    refine ⟨d, hd, rfl, ?_, hpos, ?_, ?_, rfl, rfl, ?_, ?_, ?_⟩
    · have hx : raw.toRat * 10000 =
          ((r.cumulativeRealizedPl.units * 10 ^ 6 + d.units : ℤ) : ℚ) / 10 ^ 6 := by
        unfold Dec.toRat
        rw [hrawu, hpu]
        norm_num [SCALE, DEC_SCALE]
        ring
      rw [units_of_store hcum, show (10000 : ℚ) = 10 ^ 4 by norm_num, div_mul_cancel₀ _ (by positivity),
        Rounding.halfAway_intCast, ← hx]
      norm_num
    · simp only [AccountRow.accountValue, hcum', hpeak']
    · simp only [AccountRow.accountValue, hcum', hhigh']
    · simp only [AccountRow.accountValue, hcum', hpeak', units_of_store hcdd]
    · simp only [AccountRow.accountValue, hcum', hhigh', units_of_store hddd]
    · simp only [AccountRow.accountValue, hcum', units_of_store hwdd]
  · cases h

/-! ## The cumulative P&L -/

/-- The cumulative P&L a profile's account stands at; a profile without a row stands at zero. -/
def cumulativeOf (existing : Option AccountRow) : ℚ :=
  (existing.map fun r => r.cumulativeRealizedPl.toRat).getD 0

/-- Loading the account, with everything it may create or roll, leaves the cumulative P&L alone. -/
theorem loadOrCreateAccountState_cumulative {existing : Option AccountRow} {nowMs dbNow : ℤ} {pe : ℚ}
    {r : AccountRow} (h : loadOrCreateAccountState existing nowMs dbNow pe = .ok r) :
    r.cumulativeRealizedPl.toRat = cumulativeOf existing := by
  unfold loadOrCreateAccountState at h
  simp only [Except.bind_ok_iff] at h
  obtain ⟨r₀, hselect, r₁, hinit, hroll⟩ := h
  have h₀ : r₀.cumulativeRealizedPl.toRat = cumulativeOf existing := by
    cases existing with
    | some row =>
      cases hselect
      rfl
    | none =>
      simp only [selectOrInsert, insertAccountState, Except.bind_ok_iff] at hselect
      obtain ⟨_, -, hrow⟩ := hselect
      cases hrow
      exact Numeric.toRat_zero
  have h₁ : r₁.cumulativeRealizedPl = r₀.cumulativeRealizedPl := by
    unfold initializeBaselines at hinit
    simp only at hinit
    split at hinit
    · cases hinit
      rfl
    · split at hinit
      · simp only [Except.bind_ok_iff] at hinit
        obtain ⟨_, -, _, -, hrow⟩ := hinit
        cases hrow
        rfl
      · cases hinit
        rfl
  have h₂ : r.cumulativeRealizedPl = r₁.cumulativeRealizedPl := by
    unfold rollWindows at hroll
    change (if _ then _ else _) = _ at hroll
    split at hroll
    · cases hroll
      rfl
    · simp only [Except.bind_ok_iff] at hroll
      obtain ⟨_, -, _, -, _, -, _, -, _, -, hrow⟩ := hroll
      cases hrow
      rfl
  rw [h₂, h₁, h₀]

/-- **A posting moves the cumulative P&L by the realized amount**, to the column's four decimals. -/
theorem record_cumulative {existing : Option AccountRow} {policy : Option PaperEquity} {net : Dec}
    {nowMs dbNow : ℤ} {r : AccountRow}
    (h : recordRealizedPlInTransaction existing policy (.fin net.toRat) nowMs dbNow = .ok r) :
    r.cumulativeRealizedPl.toRat =
      Rounding.halfAway ((cumulativeOf existing + net.toRat) * 10 ^ 4) / 10 ^ 4 := by
  obtain ⟨state, hload, hpost⟩ := Except.bind_ok_iff.mp h
  obtain ⟨d, hd, hposted⟩ := postRealizedPl_ok hpost
  obtain rfl := Dec.fromNumber_toRat_dec hd
  have hsum : (((state.cumulativeRealizedPl.units * 10 ^ 6 + d.units : ℤ) : ℚ) / 10 ^ 6) =
      (cumulativeOf existing + d.toRat) * 10 ^ 4 := by
    rw [← loadOrCreateAccountState_cumulative hload, Numeric.toRat, Dec.toRat, SCALE, DEC_SCALE]
    push_cast
    ring
  rw [Numeric.toRat, hposted.cumulative, hsum]

end VeltrixEye
