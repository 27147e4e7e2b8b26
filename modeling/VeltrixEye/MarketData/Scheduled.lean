import VeltrixEye.Execution.PaperMarket

/-!
# Scheduled ingestion (`market-data/scheduled.ts`)

A warm cycle walks the instrument × timeframe pairs from a persisted cursor and spends at most one budget
of provider requests.

* `nextRotationOffset`, `warmPairs`, `warmCycle` — the cursor, the loop over the pairs and one cycle.
* `warm_pairs_attempted_iff` of cycles.
-/

namespace VeltrixEye.MarketData

structure Instrument where
  assetClass : String
  symbol : String
  deriving DecidableEq

abbrev Pair := Instrument × Timeframe

def MAX_SCHEDULED_INSTRUMENTS : ℕ := 50

/-- How `warmPair` ends when the budget does not stop it. -/
inductive PairEnd where
  | completed (candles : ℕ)
  | failed
  | rateLimited

/-- One `warmPair`: the provider requests it makes before it ends, one for each missing range. -/
structure PairRun where
  requests : ℕ
  ending : PairEnd

structure ScheduledConfig where
  maxRequestsPerCycle : ℕ
  minIntervalMs : ℕ

def nextRotationOffset (previousOffset budget totalPairs : ℕ) : ℕ :=
  if totalPairs = 0 then 0 else (previousOffset + max 1 budget) % totalPairs

/-! ## The loop -/

/-- `beforeProviderRequest`, called for each of `n` requests: the requests made, and whether the budget
    guard threw. -/
def requestAll (budget : ℕ) : ℕ → ℕ → ℕ × Bool
  | 0, providerRequests => (providerRequests, false)
  | n + 1, providerRequests =>
    if budget ≤ providerRequests then (providerRequests, true)
    else requestAll budget n (providerRequests + 1)

structure WarmCounts where
  pairsCompleted : ℕ
  pairsFailed : ℕ
  candlesUpserted : ℕ
  providerRequests : ℕ
  pairsAlreadyCached : ℕ
  abortedDueToRateLimit : Bool
  budgetExhausted : Bool
  pairsDeferred : ℕ

def WarmCounts.start : WarmCounts := ⟨0, 0, 0, 0, 0, false, false, 0⟩

/-- The loop over the rotated pairs, with the pairs it attempted. -/
def warmPairs (budget : ℕ) (runOf : Pair → PairRun) : WarmCounts → List Pair → WarmCounts × List Pair
  | c, [] => (c, [])
  | c, pair :: rest =>
    let requested := requestAll budget (runOf pair).requests c.providerRequests
    let c := { c with providerRequests := requested.1 }
    if requested.2 then ({ c with budgetExhausted := true, pairsDeferred := rest.length + 1 }, [])
    else match (runOf pair).ending with
      | .completed candles =>
        let s := warmPairs budget runOf { c with
          candlesUpserted := c.candlesUpserted + candles
          pairsCompleted := c.pairsCompleted + 1
          pairsAlreadyCached := c.pairsAlreadyCached + if (runOf pair).requests = 0 then 1 else 0 } rest
        (s.1, pair :: s.2)
      | .failed =>
        let s := warmPairs budget runOf { c with pairsFailed := c.pairsFailed + 1 } rest
        (s.1, pair :: s.2)
      | .rateLimited =>
        ({ c with
          pairsFailed := c.pairsFailed + 1
          abortedDueToRateLimit := true
          pairsDeferred := rest.length }, [pair])

/-! ## Cycles -/

/-- The columns of the newest scheduled row of `ingestion_runs` that a cycle reads. -/
structure ScheduledRun where
  attemptedAtMs : ℕ
  rotationOffset : ℕ

/-- One call of `warmCache` under the advisory lock: the clock, what the universe query returns, how each
    pair goes, and whether the reads and the record of the run succeed. -/
structure WarmCycle where
  nowMs : ℕ
  finishedAtMs : ℕ
  priorReadable : Bool
  instruments : { l : List Instrument // l.length ≤ MAX_SCHEDULED_INSTRUMENTS }
  timeframes : { l : List Timeframe // l.Nodup }
  runOf : Pair → PairRun
  recorded : Bool

/-- The flat, deterministic pair order. -/
def WarmCycle.pairs (c : WarmCycle) : List Pair :=
  c.instruments.val.flatMap fun inst => c.timeframes.val.map fun tf => (inst, tf)

structure WarmReport where
  counts : WarmCounts
  rotationOffset : ℕ
  attempted : List Pair

/-- `lastScheduledRunState`: an offset of more than nine digits reads as 0, like that of no row. -/
def priorOffset (s : Option ScheduledRun) : ℕ :=
  match s with
  | some r => if r.rotationOffset < 10 ^ 9 then r.rotationOffset else 0
  | none => 0

/-- `warmCacheLocked`: the newest row after the cycle, and its report when it warmed. -/
def warmCycle (config : ScheduledConfig) (s : Option ScheduledRun) (c : WarmCycle) :
    Option ScheduledRun × Option WarmReport :=
  if !c.priorReadable then (s, none)
  else if 0 < config.minIntervalMs ∧
      s.any (fun r => c.nowMs < r.attemptedAtMs + config.minIntervalMs) then (s, none)
  else if c.instruments.val = [] then (s, none)
  else
    let totalPairs := c.pairs.length
    let rotationOffset := nextRotationOffset (priorOffset s) config.maxRequestsPerCycle totalPairs
    let r := warmPairs config.maxRequestsPerCycle c.runOf .start (c.pairs.rotate rotationOffset)
    (if c.recorded then some ⟨c.finishedAtMs, rotationOffset⟩ else s, some ⟨r.1, rotationOffset, r.2⟩)

/-- The recorded cycles of a run of calls, with their reports. -/
def recordedReports (config : ScheduledConfig) :
    Option ScheduledRun → List WarmCycle → List (WarmCycle × WarmReport)
  | _, [] => []
  | s, c :: cs =>
    match (warmCycle config s c).2, c.recorded with
    | some report, true => (c, report) :: recordedReports config (warmCycle config s c).1 cs
    | _, _ => recordedReports config (warmCycle config s c).1 cs

/-! ## What the loop attempts -/

/-- The pair's requests and those of the pairs before it fit the budget. -/
def FitsBudget (budget : ℕ) (runOf : Pair → PairRun) (order : List Pair) (p : Pair) : Prop :=
  ∃ before, before ++ [p] <+: order ∧ ((before ++ [p]).map fun q => (runOf q).requests).sum ≤ budget

variable {budget : ℕ} {runOf : Pair → PairRun}

theorem requestAll_eq (n : ℕ) {spent : ℕ} (h : spent ≤ budget) :
    requestAll budget n spent = if spent + n ≤ budget then (spent + n, false) else (budget, true) := by
  induction n generalizing spent with
  | zero => simp [requestAll, h]
  | succ n ih =>
    unfold requestAll
    by_cases hspent : budget ≤ spent
    · have hne : ¬spent + (n + 1) ≤ budget := by omega
      rw [if_pos hspent, if_neg hne, le_antisymm h hspent]
    · rw [if_neg hspent, ih (by omega), show spent + 1 + n = spent + (n + 1) by omega]

/-- What the loop keeps and what it attempts. -/
structure Warmed (budget : ℕ) (runOf : Pair → PairRun) (c : WarmCounts) (order : List Pair)
    (r : WarmCounts × List Pair) : Prop where
  requests : r.1.providerRequests ≤ budget
  total : r.1.pairsCompleted + r.1.pairsFailed + r.1.pairsDeferred =
    c.pairsCompleted + c.pairsFailed + order.length
  attempted : r.1.abortedDueToRateLimit = false → ∀ p, p ∈ r.2 ↔
    ∃ before, before ++ [p] <+: order ∧
      c.providerRequests + ((before ++ [p]).map fun q => (runOf q).requests).sum ≤ budget

theorem prefix_cons_iff {pair p : Pair} {rest before : List Pair} :
    before ++ [p] <+: pair :: rest ↔
      (before = [] ∧ p = pair) ∨ ∃ tail, before = pair :: tail ∧ tail ++ [p] <+: rest := by
  cases before with
  | nil => simp [List.cons_prefix_cons]
  | cons q tail =>
    rw [List.cons_append, List.cons_prefix_cons]
    constructor
    · rintro ⟨rfl, h⟩
      exact .inr ⟨tail, rfl, h⟩
    · rintro (⟨h, -⟩ | ⟨tail', h, hprefix⟩)
      · cases h
      · cases h
        exact ⟨rfl, hprefix⟩

theorem Warmed.cons {c c' : WarmCounts} {pair : Pair} {rest : List Pair} {r : WarmCounts × List Pair}
    (hrequests : c'.providerRequests = c.providerRequests + (runOf pair).requests)
    (hfits : c.providerRequests + (runOf pair).requests ≤ budget)
    (hcounts : c'.pairsCompleted + c'.pairsFailed = c.pairsCompleted + c.pairsFailed + 1)
    (h : Warmed budget runOf c' rest r) : Warmed budget runOf c (pair :: rest) (r.1, pair :: r.2) where
  requests := h.requests
  total := by
    have := h.total
    simp only [List.length_cons]
    omega
  attempted habort p := by
    rw [List.mem_cons, h.attempted habort p]
    constructor
    · rintro (rfl | ⟨tail, hprefix, hsum⟩)
      · refine ⟨[], ?_, ?_⟩
        · simp
        · simpa using hfits
      · refine ⟨pair :: tail, ?_, ?_⟩
        · rw [List.cons_append, List.cons_prefix_cons]
          exact ⟨rfl, hprefix⟩
        · rw [List.cons_append, List.map_cons, List.sum_cons]
          omega
    · rintro ⟨before, hprefix, hsum⟩
      rcases prefix_cons_iff.mp hprefix with ⟨-, rfl⟩ | ⟨tail, rfl, htail⟩
      · exact .inl rfl
      · refine .inr ⟨tail, htail, ?_⟩
        rw [List.cons_append, List.map_cons, List.sum_cons] at hsum
        omega

/-- **The loop.** -/
theorem warmPairs_spec {c : WarmCounts} (order : List Pair) (hrequests : c.providerRequests ≤ budget)
    (hdeferred : c.pairsDeferred = 0) (habort : c.abortedDueToRateLimit = false) :
    Warmed budget runOf c order (warmPairs budget runOf c order) := by
  induction order generalizing c with
  | nil =>
    refine ⟨hrequests, ?_, ?_⟩
    · simp [warmPairs, hdeferred]
    · simp [warmPairs]
  | cons pair rest ih =>
    unfold warmPairs
    rw [requestAll_eq _ hrequests]
    by_cases hfits : c.providerRequests + (runOf pair).requests ≤ budget
    · rw [if_pos hfits]
      dsimp only
      rw [if_neg (by simp)]
      split
      · refine Warmed.cons rfl hfits ?_ (ih hfits hdeferred habort)
        show c.pairsCompleted + 1 + c.pairsFailed = _
        omega
      · refine Warmed.cons rfl hfits ?_ (ih hfits hdeferred habort)
        show c.pairsCompleted + (c.pairsFailed + 1) = _
        omega
      · -- a rate limit: the loop stops behind this pair
        refine ⟨hfits, ?_, fun h => by simp at h⟩
        dsimp only
        rw [List.length_cons]
        omega
    · rw [if_neg hfits]
      dsimp only
      rw [if_pos rfl]
      refine ⟨Nat.le_refl _, ?_, fun _ p => ?_⟩
      · rw [List.length_cons]
      · -- every later prefix spends this pair's requests too
        simp only [List.not_mem_nil, false_iff, not_exists, not_and]
        intro before hprefix hsum
        rcases prefix_cons_iff.mp hprefix with ⟨rfl, rfl⟩ | ⟨tail, rfl, -⟩
        · exact hfits (by simpa using hsum)
        · rw [List.cons_append, List.map_cons, List.sum_cons] at hsum
          omega

/-! ## Cycles -/

variable {config : ScheduledConfig} {s : Option ScheduledRun} {c : WarmCycle} {r : WarmReport}

theorem timeframes_length (l : { l : List Timeframe // l.Nodup }) : l.val.length ≤ 14 := by
  have hsub : l.val ⊆ [.m1, .m3, .m5, .m15, .m30, .h1, .h2, .h4, .h8, .h12, .d1, .d3, .w1, .mo1] := by
    intro t _
    cases t <;> simp
  exact (List.subperm_of_subset l.property hsub).length_le

theorem pairs_length (c : WarmCycle) : c.pairs.length < 10 ^ 9 := by
  have hlength : c.pairs.length = c.instruments.val.length * c.timeframes.val.length := by
    simp [WarmCycle.pairs, List.length_flatMap]
  have hinstruments : c.instruments.val.length ≤ 50 := c.instruments.property
  have := Nat.mul_le_mul hinstruments (timeframes_length c.timeframes)
  omega

theorem nextRotationOffset_lt (previous budget : ℕ) {total : ℕ} (h : 0 < total) :
    nextRotationOffset previous budget total < total := by
  unfold nextRotationOffset
  rw [if_neg (by omega)]
  exact Nat.mod_lt _ h

/-- What a cycle that warmed did. -/
structure Cycled (config : ScheduledConfig) (s : Option ScheduledRun) (c : WarmCycle) (r : WarmReport) :
    Prop where
  offset : r.rotationOffset =
    nextRotationOffset (priorOffset s) config.maxRequestsPerCycle c.pairs.length
  warmed : Warmed config.maxRequestsPerCycle c.runOf .start (c.pairs.rotate r.rotationOffset)
    (r.counts, r.attempted)

theorem warmCycle_some (h : (warmCycle config s c).2 = some r) :
    Cycled config s c r ∧
      (c.recorded = true → (warmCycle config s c).1 = some ⟨c.finishedAtMs, r.rotationOffset⟩) := by
  unfold warmCycle at h ⊢
  by_cases hread : (!c.priorReadable) = true
  · rw [if_pos hread] at h
    cases h
  rw [if_neg hread] at h ⊢
  split at h
  · cases h
  rename_i hwait
  rw [if_neg hwait]
  split at h
  · cases h
  rename_i huniverse
  rw [if_neg huniverse]
  cases h
  exact ⟨⟨rfl, warmPairs_spec _ (Nat.zero_le _) rfl rfl⟩, fun hrecorded => if_pos hrecorded⟩

theorem warmCycle_skipped (h : (warmCycle config s c).2 = none ∨ c.recorded = false) :
    (warmCycle config s c).1 = s := by
  unfold warmCycle at h ⊢
  by_cases hread : (!c.priorReadable) = true
  · rw [if_pos hread]
  rw [if_neg hread] at h ⊢
  split
  · rfl
  rename_i hwait
  rw [if_neg hwait] at h
  split
  · rfl
  rename_i hempty
  rw [if_neg hempty] at h
  rcases h with h | h
  · cases h
  · exact if_neg (by simp [h])

theorem Cycled.bounds (h : Cycled config s c r) :
    r.counts.providerRequests ≤ config.maxRequestsPerCycle ∧
      r.counts.pairsCompleted + r.counts.pairsFailed + r.counts.pairsDeferred = c.pairs.length ∧
      (0 < c.pairs.length → r.rotationOffset < c.pairs.length) := by
  refine ⟨h.warmed.requests, ?_, fun hpos => ?_⟩
  · have htotal := h.warmed.total
    rw [List.length_rotate] at htotal
    simpa [WarmCounts.start] using htotal
  · rw [h.offset]
    exact nextRotationOffset_lt _ _ hpos

/-- **The loop of a cycle** attempts the pairs that fit the budget from the cursor on. -/
theorem Cycled.attempted (h : Cycled config s c r) (habort : r.counts.abortedDueToRateLimit = false)
    (p : Pair) :
    p ∈ r.attempted ↔
      FitsBudget config.maxRequestsPerCycle c.runOf (c.pairs.rotate r.rotationOffset) p := by
  have hiff := h.warmed.attempted habort p
  simp only [WarmCounts.start, Nat.zero_add] at hiff
  exact hiff

theorem Cycled.priorOffset (h : Cycled config s c r) :
    priorOffset (some ⟨c.finishedAtMs, r.rotationOffset⟩) = r.rotationOffset := by
  have hlength := pairs_length c
  have hlt : r.rotationOffset < 10 ^ 9 := by
    by_cases hpos : 0 < c.pairs.length
    · exact (h.bounds.2.2 hpos).trans hlength
    · rw [h.offset, nextRotationOffset, if_pos (by omega)]
      omega
  exact if_pos hlt

/-- **Consecutive recorded cycles** of one universe advance the cursor by the budget. -/
theorem recordedReports_offset {pairs : List Pair} (hpairs : 0 < pairs.length)
    {cs : List WarmCycle} (huniverse : ∀ c ∈ cs, c.pairs = pairs) {i : ℕ} {x : WarmCycle × WarmReport}
    (hx : (recordedReports config s cs)[i]? = some x) :
    x.1.pairs = pairs ∧
      x.2.rotationOffset =
        (priorOffset s + (i + 1) * max 1 config.maxRequestsPerCycle) % pairs.length ∧
      ∃ s', Cycled config s' x.1 x.2 := by
  induction cs generalizing s i with
  | nil => simp [recordedReports] at hx
  | cons c cs ih =>
    have huniverse' := fun c' hc' => huniverse c' (List.mem_cons_of_mem _ hc')
    have hc : c.pairs = pairs := huniverse c List.mem_cons_self
    unfold recordedReports at hx
    split at hx
    · rename_i report hreport hrecorded
      obtain ⟨hcycled, hnext⟩ := warmCycle_some hreport
      have hoffset : report.rotationOffset =
          (priorOffset s + max 1 config.maxRequestsPerCycle) % pairs.length := by
        rw [hcycled.offset, nextRotationOffset, hc, if_neg (by omega)]
      cases i with
      | zero =>
        cases hx
        exact ⟨hc, by simpa using hoffset, s, hcycled⟩
      | succ i =>
        rw [List.getElem?_cons_succ] at hx
        obtain ⟨hpairsx, hoffsetx, hexists⟩ := ih huniverse' hx
        refine ⟨hpairsx, ?_, hexists⟩
        rw [hoffsetx, hnext hrecorded, hcycled.priorOffset, hoffset, Nat.mod_add_mod]
        congr 1
        ring
    · rename_i hskipped
      have hsame : (warmCycle config s c).1 = s := by
        refine warmCycle_skipped ?_
        cases hreport : (warmCycle config s c).2 with
        | none => exact .inl rfl
        | some report =>
          cases hrecorded : c.recorded with
          | false => exact .inr rfl
          | true => exact absurd hrecorded (hskipped report hreport)
      rw [hsame] at hx
      exact ih huniverse' hx

/-! ## Coverage -/

theorem fitsBudget_of_getElem? {order : List Pair} {p : Pair} {n : ℕ} (hp : order[n]? = some p)
    (hn : n < budget) (hsingle : ∀ q ∈ order, (runOf q).requests ≤ 1) :
    FitsBudget budget runOf order p := by
  obtain ⟨hlt, rfl⟩ := List.getElem?_eq_some_iff.mp hp
  refine ⟨order.take n, ?_, ?_⟩
  · rw [List.take_append_getElem hlt]
    exact List.take_prefix _ _
  · rw [List.take_append_getElem hlt]
    have hbound : ∀ m ∈ (order.take (n + 1)).map fun q => (runOf q).requests, m ≤ 1 := by
      intro m hm
      obtain ⟨q, hq, rfl⟩ := List.mem_map.mp hm
      exact hsingle q (List.mem_of_mem_take hq)
    have hsum := List.sum_le_card_nsmul _ 1 hbound
    rw [List.length_map, List.length_take] at hsum
    simp only [smul_eq_mul, mul_one] at hsum
    omega

theorem window_of_ring {size step start j : ℕ} (hstep : 0 < step) (hj : j < size) :
    ∃ i n, i < (size + step - 1) / step ∧ n < step ∧ n < size ∧
      (n + (start + i * step)) % size = j := by
  -- the distance from the start to the place
  have hsize : 0 < size := by omega
  set d := (j + size - start % size) % size with hd
  have hdlt : d < size := Nat.mod_lt _ hsize
  have hreach : (start + d) % size = j := by
    have hmod : start % size < size := Nat.mod_lt _ hsize
    rw [hd, Nat.add_mod_mod, ← Nat.mod_add_mod,
      show start % size + (j + size - start % size) = j + size by omega, Nat.add_mod_right,
      Nat.mod_eq_of_lt hj]
  refine ⟨d / step, d % step, ?_, Nat.mod_lt _ hstep, (Nat.mod_le _ _).trans_lt hdlt, ?_⟩
  · rw [Nat.div_lt_iff_lt_mul hstep]
    have hceil : size ≤ (size + step - 1) / step * step := by
      have := Nat.div_add_mod (size + step - 1) step
      have hlt := Nat.mod_lt (size + step - 1) hstep
      have hcomm := Nat.mul_comm ((size + step - 1) / step) step
      omega
    omega
  · have hsplit := Nat.mod_add_div d step
    rw [show d % step + (start + d / step * step) = start + d by
      rw [Nat.mul_comm (d / step)]
      omega]
    exact hreach

/-- **No warm pair starves, exactly when the budget lets it.** In every cycle the requests stay within
    the budget, the pairs are counted and the cursor stays inside the list.  For every universe, cursor
    and budget, in `⌈P / budget⌉` recorded cycles that no rate limit aborts, every pair is attempted if
    and only if each has a cycle in which its requests and those of the pairs from the cursor on up to it
    fit the budget; that is so when no pair needs two requests. -/
theorem warm_pairs_attempted_iff (config : ScheduledConfig) (s : Option ScheduledRun) :
    (∀ s c r, (warmCycle config s c).2 = some r →
      r.counts.providerRequests ≤ config.maxRequestsPerCycle ∧
        r.counts.pairsCompleted + r.counts.pairsFailed + r.counts.pairsDeferred = c.pairs.length ∧
        (0 < c.pairs.length → r.rotationOffset < c.pairs.length)) ∧
    ∀ (pairs : List Pair) (cs : List WarmCycle), 1 ≤ config.maxRequestsPerCycle →
      (∀ c ∈ cs, c.pairs = pairs) →
      (recordedReports config s cs).length =
        (pairs.length + config.maxRequestsPerCycle - 1) / config.maxRequestsPerCycle →
      (∀ x ∈ recordedReports config s cs, x.2.counts.abortedDueToRateLimit = false) →
      ((∀ p ∈ pairs, ∃ x ∈ recordedReports config s cs, p ∈ x.2.attempted) ↔
        ∀ p ∈ pairs, ∃ i x, (recordedReports config s cs)[i]? = some x ∧
          FitsBudget config.maxRequestsPerCycle x.1.runOf
            (pairs.rotate (priorOffset s + (i + 1) * config.maxRequestsPerCycle)) p) ∧
      ((∀ x ∈ recordedReports config s cs, ∀ p ∈ pairs, (x.1.runOf p).requests ≤ 1) →
        ∀ p ∈ pairs, ∃ x ∈ recordedReports config s cs, p ∈ x.2.attempted) := by
  refine ⟨fun s c r h => (warmCycle_some h).1.bounds, ?_⟩
  intro pairs cs hbudget huniverse hlength habort
  have hmax : max 1 config.maxRequestsPerCycle = config.maxRequestsPerCycle := by omega
  -- one cycle of the window
  have attempted : ∀ i x, 0 < pairs.length → (recordedReports config s cs)[i]? = some x → ∀ p,
      p ∈ x.2.attempted ↔ FitsBudget config.maxRequestsPerCycle x.1.runOf
        (pairs.rotate (priorOffset s + (i + 1) * config.maxRequestsPerCycle)) p := by
    intro i x hpairs hx p
    obtain ⟨hxpairs, hoffset, s', hcycled⟩ := recordedReports_offset hpairs huniverse hx
    rw [hcycled.attempted (habort x (List.mem_of_getElem? hx)) p, hxpairs, hoffset, hmax,
      List.rotate_mod]
  have hiff : (∀ p ∈ pairs, ∃ x ∈ recordedReports config s cs, p ∈ x.2.attempted) ↔
      ∀ p ∈ pairs, ∃ i x, (recordedReports config s cs)[i]? = some x ∧
        FitsBudget config.maxRequestsPerCycle x.1.runOf
          (pairs.rotate (priorOffset s + (i + 1) * config.maxRequestsPerCycle)) p := by
    refine forall₂_congr fun p hp => ?_
    have hpairs : 0 < pairs.length := List.length_pos_of_mem hp
    constructor
    · rintro ⟨x, hx, hattempted⟩
      obtain ⟨i, hi⟩ := List.getElem?_of_mem hx
      exact ⟨i, x, hi, (attempted i x hpairs hi p).mp hattempted⟩
    · rintro ⟨i, x, hi, hfits⟩
      exact ⟨x, List.mem_of_getElem? hi, (attempted i x hpairs hi p).mpr hfits⟩
  refine ⟨hiff, fun hsingle => hiff.mpr ?_⟩
  intro p hp
  obtain ⟨j, hj, rfl⟩ := List.getElem_of_mem hp
  obtain ⟨i, n, hi, hn, hnsize, hplace⟩ :=
    @window_of_ring pairs.length config.maxRequestsPerCycle
      (priorOffset s + config.maxRequestsPerCycle) j hbudget hj
  rw [← hlength] at hi
  refine ⟨i, (recordedReports config s cs)[i], List.getElem?_eq_getElem hi, ?_⟩
  refine fitsBudget_of_getElem? (n := n) ?_ hn ?_
  · have hrotate : n < (pairs.rotate
        (priorOffset s + (i + 1) * config.maxRequestsPerCycle)).length := by
      rwa [List.length_rotate]
    rw [List.getElem?_eq_getElem hrotate, List.getElem_rotate]
    congr 1
    have hsame : (n + (priorOffset s + (i + 1) * config.maxRequestsPerCycle)) % pairs.length = j := by
      rw [← hplace]
      congr 1
      ring
    simp only [hsame]
  · intro q hq
    exact hsingle _ (List.getElem_mem hi) q (List.mem_rotate.mp hq)

/-! ## Two requests for each pair -/

/-- One instrument with four timeframes: four pairs. -/
def sampleCycle (requests : ℕ) : WarmCycle where
  nowMs := 0
  finishedAtMs := 0
  priorReadable := true
  instruments := ⟨[⟨"forex", "EURUSD"⟩], by decide⟩
  timeframes := ⟨[.m5, .m15, .h1, .h4], by decide⟩
  runOf := fun _ => ⟨requests, .completed 500⟩
  recorded := true

/-- With a budget of two requests each cycle completes one pair and moves the cursor by two: in two
    cycles, and in ten, the second and the fourth pair are never attempted. -/
theorem two_requests_starve_pairs :
    ((recordedReports ⟨2, 0⟩ none [sampleCycle 2, sampleCycle 2]).map (·.2.attempted) =
        [[(⟨"forex", "EURUSD"⟩, .h1)], [(⟨"forex", "EURUSD"⟩, .m5)]]) ∧
      (∀ x ∈ recordedReports ⟨2, 0⟩ none (List.replicate 10 (sampleCycle 2)),
        x.2.counts.abortedDueToRateLimit = false ∧ (⟨"forex", "EURUSD"⟩, .m15) ∉ x.2.attempted) := by
  decide

/-- One request each: two cycles attempt all four. -/
theorem warm_pairs_attempted_single :
    ∀ p ∈ (sampleCycle 1).pairs, ∃ x ∈ recordedReports ⟨2, 0⟩ none [sampleCycle 1, sampleCycle 1],
      p ∈ x.2.attempted :=
  ((warm_pairs_attempted_iff ⟨2, 0⟩ none).2 (sampleCycle 1).pairs [sampleCycle 1, sampleCycle 1]
    (by decide) (by simp) (by decide) (by decide)).2 (by decide)

end VeltrixEye.MarketData
