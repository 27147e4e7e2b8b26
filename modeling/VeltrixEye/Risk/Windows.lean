import VeltrixEye.Risk.Ledger

/-!
# The day and week windows of the risk account (`risk/service.ts`)

`evaluate` and `recordRealizedPl` both start with `loadOrCreateAccountState`, which rolls a
window only when it notices that its date changed.  The three counters of a row are compared
here with the list of P&L values the run recorded: what fell into the call's own UTC day, into
its Monday-based UTC week, and the losses at the end of the list.

Principal results:
-/

namespace VeltrixEye

/-! ## Days and weeks -/

/-- `Date.prototype.getUTCDay`: Sunday is `0`. -/
def getUTCDay (ms : ℤ) : ℤ := (utcDay ms + 4) % 7

theorem mondayUtc_eq_offset (ms : ℤ) :
    mondayUtc ms = utcDay ms - (if getUTCDay ms = 0 then 6 else getUTCDay ms - 1) := by
  unfold mondayUtc getUTCDay
  split <;> omega

theorem mondayUtc_spec (ms : ℤ) :
    getUTCDay (mondayUtc ms * MS_PER_DAY) = 1 ∧ mondayUtc ms ≤ utcDay ms ∧
      utcDay ms < mondayUtc ms + 7 := by
  have hday : utcDay (mondayUtc ms * MS_PER_DAY) = mondayUtc ms :=
    Int.mul_ediv_cancel _ (by decide)
  refine ⟨?_, ?_, ?_⟩
  · rw [getUTCDay, hday, mondayUtc]
    omega
  · rw [mondayUtc]
    omega
  · rw [mondayUtc]
    omega

theorem monotone_utcDay : Monotone utcDay :=
  fun _ _ h => Int.ediv_le_ediv (by decide) h

theorem monotone_mondayUtc : Monotone mondayUtc := by
  intro s t h
  have hday := monotone_utcDay h
  unfold mondayUtc
  omega

/-! ## What a run records -/

/-- A P&L the account took, with the clock of the call. -/
structure PlRecord where
  clock : ℤ
  pl : ℚ
  deriving DecidableEq

/-- The P&L recorded in the window of `nowMs`, where `window` is `utcDay` or `mondayUtc`. -/
def windowSum (window : ℤ → ℤ) (nowMs : ℤ) (recorded : List PlRecord) : ℚ :=
  ((recorded.filter fun e => window e.clock = window nowMs).map PlRecord.pl).sum

/-- The losses at the end of the list. -/
def lossStreak (recorded : List PlRecord) : ℕ :=
  (recorded.rtakeWhile fun e => e.pl < 0).length

/-- Every P&L of the window has at most ten decimals, the scale of the two columns. -/
def TenDecimals (window : ℤ → ℤ) (nowMs : ℤ) (recorded : List PlRecord) : Prop :=
  ∀ e ∈ recorded, window e.clock = window nowMs → Numeric.OnGrid 10 e.pl

theorem windowSum_concat (window : ℤ → ℤ) (nowMs : ℤ) (recorded : List PlRecord) (pl : ℚ) :
    windowSum window nowMs (recorded ++ [⟨nowMs, pl⟩]) = windowSum window nowMs recorded + pl := by
  simp [windowSum]

theorem windowSum_congr {window : ℤ → ℤ} {s t : ℤ} (h : window s = window t)
    (recorded : List PlRecord) : windowSum window s recorded = windowSum window t recorded := by
  unfold windowSum
  rw [h]

theorem windowSum_eq_zero {window : ℤ → ℤ} (hmono : Monotone window) {s t : ℤ}
    {recorded : List PlRecord} (hbefore : ∀ e ∈ recorded, e.clock ≤ s) (hlt : window s < window t) :
    windowSum window t recorded = 0 := by
  have hnone : recorded.filter (fun e => window e.clock = window t) = [] := by
    rw [List.filter_eq_nil_iff]
    intro e he
    have hle := hmono (hbefore e he)
    simp only [decide_eq_true_eq]
    omega
  unfold windowSum
  rw [hnone]
  rfl

theorem lossStreak_concat (recorded : List PlRecord) (nowMs : ℤ) (pl : ℚ) :
    lossStreak (recorded ++ [⟨nowMs, pl⟩]) = if pl < 0 then lossStreak recorded + 1 else 0 := by
  unfold lossStreak
  rw [List.rtakeWhile_concat]
  simp only [decide_eq_true_eq]
  split <;> simp

/-! ## One column -/

/-- A window column at clock `t`: it starts at the window of `t` and holds the window's sum. -/
structure Column (window : ℤ → ℤ) (t : ℤ) (recorded : List PlRecord) (start : ℤ)
    (value : Numeric 24 10) : Prop where
  start_eq : start = window t
  sum : TenDecimals window t recorded → value.toRat = windowSum window t recorded

theorem Column.rolled {window : ℤ → ℤ} (hmono : Monotone window) {s t start : ℤ}
    {recorded : List PlRecord} {value : Numeric 24 10} (h : Column window s recorded start value)
    (hbefore : ∀ e ∈ recorded, e.clock ≤ s) (hle : s ≤ t) :
    Column window t recorded (window t) (if start = window t then value else 0) := by
  refine ⟨rfl, fun hten => ?_⟩
  obtain rfl := h.start_eq
  by_cases hsame : window s = window t
  · rw [if_pos hsame, ← windowSum_congr hsame]
    apply h.sum
    intro e he hwin
    exact hten e he (hwin.trans hsame)
  · have hlt : window s < window t := lt_of_le_of_ne (hmono hle) hsame
    rw [if_neg hsame, windowSum_eq_zero hmono hbefore hlt]
    exact Numeric.toRat_zero

theorem Column.posted {window : ℤ → ℤ} {t start : ℤ} {recorded : List PlRecord} {pl : ℚ}
    {value value' : Numeric 24 10} (h : Column window t recorded start value)
    (hstore : store 24 10 (value.toRat + pl) = .ok value') :
    Column window t (recorded ++ [⟨t, pl⟩]) start value' := by
  refine ⟨h.start_eq, fun hten => ?_⟩
  have hpl : Numeric.OnGrid 10 pl := hten ⟨t, pl⟩ (by simp) rfl
  have hold : TenDecimals window t recorded :=
    fun e he => hten e (List.mem_append_left _ he)
  rw [toRat_of_store ((Numeric.onGrid_toRat value).add hpl) hstore, h.sum hold, windowSum_concat]

/-! ## The window columns of a row -/

/-- The columns the windows and the streak live in. -/
structure WindowColumns where
  dailyWindowStart : ℤ
  weeklyWindowStart : ℤ
  dailyRealizedPl : Numeric 24 10
  weeklyRealizedPl : Numeric 24 10
  consecutiveLosses : ℕ

def AccountRow.windows (r : AccountRow) : WindowColumns :=
  ⟨r.dailyWindowStart, r.weeklyWindowStart, r.dailyRealizedPl, r.weeklyRealizedPl,
    r.consecutiveLosses⟩

namespace WindowColumns

/-- A fresh row. -/
def fresh (nowMs : ℤ) : WindowColumns := ⟨utcDay nowMs, mondayUtc nowMs, 0, 0, 0⟩

/-- The day and the week roll independently. -/
def rolled (w : WindowColumns) (nowMs : ℤ) : WindowColumns where
  dailyWindowStart := utcDay nowMs
  weeklyWindowStart := mondayUtc nowMs
  dailyRealizedPl := if w.dailyWindowStart = utcDay nowMs then w.dailyRealizedPl else 0
  weeklyRealizedPl := if w.weeklyWindowStart = mondayUtc nowMs then w.weeklyRealizedPl else 0
  consecutiveLosses := w.consecutiveLosses

/-- The counters of a row that was last loaded at `t`. -/
structure Tracks (w : WindowColumns) (recorded : List PlRecord) (t : ℤ) : Prop where
  before : ∀ e ∈ recorded, e.clock ≤ t
  daily : Column utcDay t recorded w.dailyWindowStart w.dailyRealizedPl
  weekly : Column mondayUtc t recorded w.weeklyWindowStart w.weeklyRealizedPl
  streak : w.consecutiveLosses = lossStreak recorded

theorem tracks_fresh (nowMs : ℤ) : (fresh nowMs).Tracks [] nowMs :=
  ⟨by simp, ⟨rfl, fun _ => Numeric.toRat_zero⟩, ⟨rfl, fun _ => Numeric.toRat_zero⟩, rfl⟩

/-- **Rolling** to a later clock, whatever boundaries lie in between. -/
theorem Tracks.rolled {w : WindowColumns} {recorded : List PlRecord} {s t : ℤ}
    (h : w.Tracks recorded s) (hle : s ≤ t) : (w.rolled t).Tracks recorded t where
  before e he := (h.before e he).trans hle
  daily := h.daily.rolled monotone_utcDay h.before hle
  weekly := h.weekly.rolled monotone_mondayUtc h.before hle
  streak := h.streak

/-- **Posting** at the clock the row was loaded at. -/
theorem Tracks.posted {w w' : WindowColumns} {recorded : List PlRecord} {t : ℤ} {pl : ℚ}
    (h : w.Tracks recorded t) (hday : w'.dailyWindowStart = w.dailyWindowStart)
    (hweek : w'.weeklyWindowStart = w.weeklyWindowStart)
    (hdaily : store 24 10 (w.dailyRealizedPl.toRat + pl) = .ok w'.dailyRealizedPl)
    (hweekly : store 24 10 (w.weeklyRealizedPl.toRat + pl) = .ok w'.weeklyRealizedPl)
    (hlosses : w'.consecutiveLosses = if pl < 0 then w.consecutiveLosses + 1 else 0) :
    w'.Tracks (recorded ++ [⟨t, pl⟩]) t where
  before e he := by
    rcases List.mem_append.mp he with he | he
    · exact h.before e he
    · rw [List.mem_singleton.mp he]
  daily := hday ▸ h.daily.posted hdaily
  weekly := hweek ▸ h.weekly.posted hweekly
  streak := by rw [hlosses, lossStreak_concat, h.streak]

end WindowColumns

/-! ## The writers on these columns -/

theorem initializeBaselines_windows {r r' : AccountRow} {dbNow : ℤ} {pe : ℚ}
    (h : initializeBaselines r dbNow pe = .ok r') : r'.windows = r.windows := by
  unfold initializeBaselines at h
  simp only at h
  split at h
  · cases h
    rfl
  · split at h
    · simp only [Except.bind_ok_iff] at h
      obtain ⟨_, -, _, -, hrow⟩ := h
      cases hrow
      rfl
    · cases h
      rfl

theorem rollWindows_windows {r r' : AccountRow} {nowMs dbNow : ℤ} {pe : ℚ}
    (h : rollWindows r nowMs dbNow pe = .ok r') : r'.windows = r.windows.rolled nowMs := by
  unfold rollWindows at h
  change (if _ then _ else _) = _ at h
  split at h
  · rename_i hsame
    cases h
    simp [AccountRow.windows, WindowColumns.rolled, hsame.1, hsame.2]
  · simp only [Except.bind_ok_iff] at h
    obtain ⟨_, -, _, -, _, -, _, -, _, -, hrow⟩ := h
    cases hrow
    rfl

/-- The columns a call starts from. -/
def windowsOf (existing : Option AccountRow) (nowMs : ℤ) : WindowColumns :=
  match existing with
  | some r => r.windows
  | none => .fresh nowMs

theorem loadOrCreateAccountState_windows {existing : Option AccountRow} {nowMs dbNow : ℤ} {pe : ℚ}
    {r : AccountRow} (h : loadOrCreateAccountState existing nowMs dbNow pe = .ok r) :
    r.windows = (windowsOf existing nowMs).rolled nowMs := by
  unfold loadOrCreateAccountState at h
  simp only [Except.bind_ok_iff] at h
  obtain ⟨r₀, hselect, r₁, hinit, hroll⟩ := h
  have hbase : r₀.windows = windowsOf existing nowMs := by
    cases existing with
    | some row =>
      cases hselect
      rfl
    | none =>
      simp only [selectOrInsert, insertAccountState, Except.bind_ok_iff] at hselect
      obtain ⟨_, -, hrow⟩ := hselect
      cases hrow
      rfl
  rw [rollWindows_windows hroll, initializeBaselines_windows hinit, hbase]

theorem postRealizedPl_tracks {r r' : AccountRow} {pl : ℚ} {dbNow t : ℤ}
    {recorded : List PlRecord} (h : r.windows.Tracks recorded t)
    (hpost : postRealizedPl r pl dbNow = .ok r') :
    r'.windows.Tracks (recorded ++ [⟨t, pl⟩]) t := by
  unfold postRealizedPl at hpost
  split at hpost
  · simp only [Except.bind_ok_iff] at hpost
    obtain ⟨raw, -, hpost⟩ := hpost
    split at hpost
    · cases hpost
    simp only [Except.bind_ok_iff] at hpost
    obtain ⟨daily, hdaily, weekly, hweekly, _, -, _, -, _, -, _, -, _, -, _, -, hrow⟩ := hpost
    cases hrow
    exact h.posted rfl rfl hdaily hweekly rfl
  · cases hpost

/-! ## Runs -/

def AccountAction.nowMs : AccountAction → ℤ
  | .evaluate _ nowMs _ => nowMs
  | .recordRealizedPl _ _ nowMs _ => nowMs

/-- The P&L a call asks the account to take. -/
def AccountAction.posts : AccountAction → List PlRecord
  | .evaluate .. => []
  | .recordRealizedPl _ (.fin pl) nowMs _ => [⟨nowMs, pl⟩]
  | .recordRealizedPl .. => []

/-- The account row of a profile, beside everything recorded for it. -/
structure Journal where
  row : Option AccountRow
  recorded : List PlRecord

/-- A call that throws writes nothing and records nothing. -/
def journalStep (j : Journal) (a : AccountAction) : Journal where
  row := accountStep j.row a
  recorded :=
    match a.apply j.row with
    | .ok _ => j.recorded ++ a.posts
    | .error _ => j.recorded

def Journal.start : Journal := ⟨none, []⟩

/-- The journal after calls whose clocks are at most `t`. -/
def Journal.Tracks (j : Journal) (t : ℤ) : Prop :=
  match j.row with
  | none => j.recorded = []
  | some r => ∃ s ≤ t, r.windows.Tracks j.recorded s

theorem Journal.Tracks.loaded {j : Journal} {s t : ℤ} (h : j.Tracks s) (hle : s ≤ t) :
    ((windowsOf j.row t).rolled t).Tracks j.recorded t := by
  unfold Journal.Tracks at h
  cases hrow : j.row with
  | none =>
    rw [hrow] at h
    simp only at h
    rw [h]
    exact (WindowColumns.tracks_fresh t).rolled le_rfl
  | some r =>
    rw [hrow] at h
    obtain ⟨u, hu, htracks⟩ := h
    exact htracks.rolled (hu.trans hle)

/-- **One call.** -/
theorem apply_tracks {j : Journal} {s : ℤ} {a : AccountAction} {r : AccountRow} (h : j.Tracks s)
    (hle : s ≤ a.nowMs) (hret : a.apply j.row = .ok r) :
    r.windows.Tracks (j.recorded ++ a.posts) a.nowMs := by
  cases a with
  | evaluate policy nowMs dbNow =>
    have hload : ((windowsOf j.row nowMs).rolled nowMs).Tracks j.recorded nowMs := h.loaded hle
    rw [← loadOrCreateAccountState_windows hret] at hload
    rw [AccountAction.posts, List.append_nil]
    exact hload
  | recordRealizedPl policy realizedPl nowMs dbNow =>
    cases realizedPl with
    | fin pl =>
      obtain ⟨state, hstate, hpost⟩ := Except.bind_ok_iff.mp hret
      have hload : ((windowsOf j.row nowMs).rolled nowMs).Tracks j.recorded nowMs := h.loaded hle
      rw [← loadOrCreateAccountState_windows hstate] at hload
      exact postRealizedPl_tracks hload hpost
    | _ => cases hret

theorem journalStep_of_ok {j : Journal} {a : AccountAction} {r : AccountRow}
    (hret : a.apply j.row = .ok r) : journalStep j a = ⟨some r, j.recorded ++ a.posts⟩ := by
  unfold journalStep accountStep
  rw [hret]

theorem journalStep_of_error {j : Journal} {a : AccountAction} {e : AccountError}
    (herr : a.apply j.row = .error e) : journalStep j a = j := by
  unfold journalStep accountStep
  rw [herr]

theorem Journal.Tracks.mono {j : Journal} {s t : ℤ} (h : j.Tracks s) (hle : s ≤ t) :
    j.Tracks t := by
  unfold Journal.Tracks at h ⊢
  cases hrow : j.row with
  | none =>
    rw [hrow] at h
    exact h
  | some r =>
    rw [hrow] at h
    obtain ⟨u, hu, htracks⟩ := h
    exact ⟨u, hu.trans hle, htracks⟩

theorem journalStep_tracks {j : Journal} {s : ℤ} {a : AccountAction} (h : j.Tracks s)
    (hle : s ≤ a.nowMs) : (journalStep j a).Tracks a.nowMs := by
  cases hret : a.apply j.row with
  | ok r =>
    rw [journalStep_of_ok hret]
    exact ⟨a.nowMs, le_rfl, apply_tracks h hle hret⟩
  | error e =>
    rw [journalStep_of_error hret]
    exact h.mono hle

/-- The calls of a run are made at non-decreasing clocks. -/
def ClocksAscend (as : List AccountAction) : Prop := (as.map AccountAction.nowMs).Pairwise (· ≤ ·)

instance (as : List AccountAction) : Decidable (ClocksAscend as) :=
  inferInstanceAs (Decidable (List.Pairwise _ _))

theorem ClocksAscend.concat {as : List AccountAction} {a : AccountAction}
    (h : ClocksAscend (as ++ [a])) : ClocksAscend as ∧ ∀ b ∈ as, b.nowMs ≤ a.nowMs := by
  unfold ClocksAscend at h ⊢
  rw [List.map_append, List.pairwise_append] at h
  obtain ⟨has, -, hlast⟩ := h
  exact ⟨has, fun b hb => hlast _ (List.mem_map_of_mem hb) _ (by simp)⟩

/-- **A run**, seen from the clock `t` of a later call. -/
theorem journal_tracks_run {as : List AccountAction} {t : ℤ} (hclocks : ClocksAscend as)
    (ht : ∀ a ∈ as, a.nowMs ≤ t) : (Runs.run journalStep .start as).Tracks t := by
  induction as using List.reverseRecOn generalizing t with
  | nil => rfl
  | append_singleton as a ih =>
    obtain ⟨has, hlast⟩ := hclocks.concat
    have hstep := journalStep_tracks (ih has hlast) le_rfl
    rw [Runs.run_append]
    exact hstep.mono (ht a (by simp))

/-- A P&L below the scale of the columns. -/
def tinyPl : AccountAction := .recordRealizedPl (some equity10000) (.fin (4 / 10 ^ 11)) 0 0

/-- A loss on the last Sunday evening of 2023 and one in the first hours of 2024. -/
def newYearLosses : List AccountAction :=
  [.recordRealizedPl (some equity10000) (.fin (-25 / 2)) 1704063600000 0,
    .recordRealizedPl (some equity10000) (.fin (-3)) 1704070800000 0]

/-- The next evaluation, on Tuesday. -/
def newYearEvaluation : AccountAction := .evaluate equity10000 1704153600000 0

end VeltrixEye
