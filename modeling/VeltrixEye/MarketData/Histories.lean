import VeltrixEye.MarketData.FetchThrough

/-!
# Histories of reads and backfills (`market-data/ingestion.ts`)

* `read_store`, `backfill_store` — what a call stores, whether it succeeds or fails.
-/

namespace VeltrixEye.MarketData

open Runs

variable {S : ProviderSeries} {period clock nowMs : ℤ} {rows rows' : List CandleRow} {w : World}
  {outage : Outage} {pair : Pair} {req : CandleReadRequest} {d : MarketStore} {result : CandlesResponse}

/-! ## What the calls store -/

theorem set_candles (d : MarketStore) (pair p : Pair) (rows : List CandleRow) :
    (d.set pair rows).candles p = if p = pair then rows else d.candles p := by
  simp [MarketStore.set, Function.update_apply]

theorem read_store (provider : Provider) (hprovider : provider = w.provider outage req.nowMs) :
    (getCandles (some provider) d req).1 = d ∨
      ∃ instrument written rows', d.resolveInstrument req.instrument = some instrument ∧
        written <+: rangesOf req (d.candles (instrument, req.timeframe)) ∧
        Merged (w.series (instrument, req.timeframe)) (periodMs req.timeframe) req.nowMs
          (InRanges (w.series (instrument, req.timeframe)) (periodMs req.timeframe) req.nowMs written)
          (d.candles (instrument, req.timeframe)) rows' ∧
        ((getCandles (some provider) d req).1 = d.set (instrument, req.timeframe) rows' ∨
          ∃ cutoff, (getCandles (some provider) d req).1 =
            d.set (instrument, req.timeframe) (pruneBeyondRetention rows' cutoff)) := by
  unfold getCandles
  split
  · exact .inl rfl
  rename_i instrument hresolve
  dsimp only
  split
  · exact .inl rfl
  split
  · exact .inl rfl
  · exact .inl rfl
  · rename_i hsame _
    cases hsame
    subst hprovider
    split
    · rename_i rows' e hfetch
      obtain ⟨written, hprefix, -, hmerged⟩ := fetchMissing_merged hfetch
      exact .inr ⟨instrument, written, rows', hresolve, hprefix, hmerged, .inl rfl⟩
    · rename_i rows' hfetch
      obtain ⟨written, hprefix, -, hmerged⟩ := fetchMissing_merged hfetch
      exact .inr ⟨instrument, written, rows', hresolve, hprefix, hmerged, .inr ⟨_, rfl⟩⟩

theorem backfillPair_store (bf : BackfillRequest) :
    (backfillPair (w.provider outage bf.nowMs) bf d pair).1 = d ∨
      ∃ rows' cutoff, Merged (w.series pair) (periodMs pair.2) bf.nowMs
          (InRanges (w.series pair) (periodMs pair.2) bf.nowMs [(bf.fromMs, bf.toMs)]) (d.candles pair) rows' ∧
        (backfillPair (w.provider outage bf.nowMs) bf d pair).1 =
          d.set pair (pruneBeyondRetention rows' cutoff) := by
  unfold backfillPair
  split
  · exact .inl rfl
  · rename_i rows' n hfetch
    have hmerged := @fetchRange_merged bf.nowMs _ _ w outage pair (bf.fromMs, bf.toMs) n hfetch
    exact .inr ⟨rows', _, hmerged.congr fun t => by simp [InRanges], rfl⟩

theorem resolved_eq {d : MarketStore} {l found : List Instrument}
    (h : (l.mapM fun i => (match d.resolveInstrument i with
      | none => .error (.unknownInstrument i.assetClass i.symbol)
      | some found => .ok found : Except IngestionError Instrument)) = .ok found) :
    found = l.filterMap d.resolveInstrument := by
  induction l generalizing found with
  | nil =>
    cases h
    rfl
  | cons i l ih =>
    rw [List.mapM_cons] at h
    simp only [Except.bind_ok_iff] at h
    obtain ⟨j, hj, rest, hrest, h⟩ := h
    cases h
    split at hj
    · cases hj
    rename_i hresolve
    cases hj
    rw [List.filterMap_cons, hresolve, ih hrest]

theorem backfill_store (provider : Provider) (d : MarketStore) (bf : BackfillRequest) :
    (backfill (some provider) d bf).1 = d ∨
      (backfill (some provider) d bf).1 = (backfillPairs provider bf d
        ((bf.instruments.filterMap d.resolveInstrument).flatMap fun i =>
          bf.timeframes.map fun tf => (i, tf))).1 := by
  unfold backfill
  dsimp only
  split
  · exact .inl rfl
  rename_i found hfound
  rw [resolved_eq hfound]
  split
  · exact .inl rfl
  · split
    · exact .inl rfl
    · exact .inr rfl

/-! ## Histories -/

/-- The rows of every pair are the provider's. -/
def StoreOk (w : World) (clock : ℤ) (d : MarketStore) : Prop :=
  ∀ pair, RowsOk (w.series pair) (periodMs pair.2) clock (d.candles pair)

theorem StoreOk.set (h : StoreOk w clock d) (hrows : RowsOk (w.series pair) (periodMs pair.2) clock rows) :
    StoreOk w clock (d.set pair rows) := by
  intro p
  rw [set_candles]
  split
  · rename_i hp
    subst hp
    exact hrows
  · exact h p

theorem StoreOk.read (h : StoreOk w clock d) (hclock : clock ≤ req.nowMs) :
    StoreOk w req.nowMs (getCandles (some (w.provider outage req.nowMs)) d req).1 := by
  have hnow : StoreOk w req.nowMs d := fun pair => (h pair).mono hclock
  rcases read_store (w.provider outage req.nowMs) rfl with hsame | ⟨i, written, rows', -, -, hmerged, hstore⟩
  · rw [hsame]
    exact hnow
  · have hrows' := (h (i, req.timeframe)).merged hclock hmerged fun t ⟨_, _, ht⟩ => ht.1
    rcases hstore with hstore | ⟨cutoff, hstore⟩
    · rw [hstore]
      exact hnow.set hrows'
    · rw [hstore]
      exact hnow.set (hrows'.prune cutoff)

theorem StoreOk.backfillPairs {bf : BackfillRequest} {pairs : List Pair} (h : StoreOk w bf.nowMs d) :
    StoreOk w bf.nowMs (backfillPairs (w.provider outage bf.nowMs) bf d pairs).1 := by
  induction pairs generalizing d with
  | nil => exact h
  | cons pair pairs ih =>
    refine ih ?_
    rcases backfillPair_store bf with hsame | ⟨rows', cutoff, hmerged, hstore⟩
    · rw [hsame]
      exact h
    · rw [hstore]
      exact h.set (((h pair).merged le_rfl hmerged fun t ⟨_, _, ht⟩ => ht.1).prune cutoff)

/-- **A call keeps the rows the provider's.** -/
theorem ingestionStep_storeOk {s : IngestionState} {a : IngestionAction} (h : StoreOk w s.clock s.store)
    (ha : ClockAdvances s a) : StoreOk w (ingestionStep w s a).clock (ingestionStep w s a).store := by
  cases a with
  | read req outage => exact h.read ha
  | backfill bf outage =>
    have hnow : StoreOk w bf.nowMs s.store := fun pair => (h pair).mono ha
    simp only [ingestionStep]
    rcases backfill_store (w.provider outage bf.nowMs) s.store bf with hsame | hstore
    · rw [hsame]
      exact hnow
    · rw [hstore]
      exact hnow.backfillPairs

/-! ## Ranges that join up -/

/-- The candles of a pair are one stretch of the grid, and final but for the newest. -/
structure Joined (S : ProviderSeries) (period clock : ℤ) (rows : List CandleRow) : Prop
    extends RowsOk S period clock rows where
  between : ∀ a ∈ rows, ∀ b ∈ rows, ∀ t, S.Opened period clock t → a.ts ≤ t → t ≤ b.ts → ∃ r ∈ rows, r.ts = t
  settled : ∀ r ∈ rows, ∀ q ∈ rows, r.ts < q.ts → kept (S.candle period clock r.ts) = .ok r.toDto

/-- Ranges that join up with the rows. -/
def AllJoin (rows : List CandleRow) (ranges : List (ℤ × ℤ)) : Prop :=
  (rows = [] ∧ ∀ x ∈ ranges, ∀ y ∈ ranges, x = y) ∨
    ∀ range ∈ ranges, (∃ r ∈ rows, range.1 ≤ r.ts) ∧ ∃ r ∈ rows, r.ts ≤ range.2

theorem AllJoin.of_joinsUp {a b : ℤ} (h : JoinsUp rows a b) : AllJoin rows [(a, b)] := by
  rcases h with hempty | hjoin
  · exact .inl ⟨hempty, by simp⟩
  · exact .inr (by simpa using hjoin)

theorem AllJoin.subset {ranges ranges' : List (ℤ × ℤ)} (h : AllJoin rows ranges) (hsub : ranges' ⊆ ranges) :
    AllJoin rows ranges' :=
  h.imp (fun ⟨hempty, hone⟩ => ⟨hempty, fun x hx y hy => hone x (hsub hx) y (hsub hy)⟩)
    fun hjoin range hrange => hjoin range (hsub hrange)

theorem allJoin_rangesOf (h : JoinsUp rows req.fromMs req.toMs) : AllJoin rows (rangesOf req rows) := by
  by_cases hempty : rangeRows rows req.fromMs req.toMs = []
  · rw [rangesOf_empty hempty]
    exact .of_joinsUp h
  · obtain ⟨first, hfirst, last, hlast, -, hranges⟩ := rangesOf_cons hempty
    obtain ⟨hfirst, hfrom, -⟩ := mem_rangeRows.mp hfirst
    obtain ⟨hlast, -, hto⟩ := mem_rangeRows.mp hlast
    refine .inr fun range hrange => ?_
    rcases (hranges range).mp hrange with ⟨-, rfl⟩ | ⟨-, rfl⟩
    · exact ⟨⟨first, hfirst, hfrom⟩, first, hfirst, le_rfl⟩
    · exact ⟨⟨last, hlast, le_rfl⟩, last, hlast, hto.le⟩

theorem Joined.mono (hperiod : 0 < period) (h : Joined S period clock rows) (hclock : clock ≤ nowMs) :
    Joined S period nowMs rows := by
  refine ⟨h.toRowsOk.mono hclock, fun a ha b hb t ht hat htb => ?_, fun r hr q hq hlt => ?_⟩
  · exact h.between a ha b hb t ⟨ht.1, htb.trans (h.opened b hb).2.1, ht.2.2⟩ hat htb
  · have hclosed := opened_apart hperiod (h.opened r hr) (h.opened q hq) hlt
    have hq := (h.opened q hq).2.1
    rw [candle_closed (hclosed.trans (hq.trans hclock)) (hclosed.trans hq)]
    exact h.settled r hr q (by assumption) hlt

theorem Joined.prune (h : Joined S period clock rows) (cutoff : ℤ) :
    Joined S period clock (pruneBeyondRetention rows cutoff) := by
  refine ⟨h.toRowsOk.prune cutoff, fun a ha b hb t ht hat htb => ?_, fun r hr q hq hlt => ?_⟩
  · obtain ⟨ha, hcutoff⟩ := List.mem_filter.mp ha
    obtain ⟨r, hr, rfl⟩ := h.between a ha b (List.mem_of_mem_filter hb) t ht hat htb
    refine ⟨r, List.mem_filter.mpr ⟨hr, ?_⟩, rfl⟩
    rw [decide_eq_true_eq] at hcutoff ⊢
    exact hcutoff.trans hat
  · exact h.settled r (List.mem_of_mem_filter hr) q (List.mem_of_mem_filter hq) hlt

/-- **Ranges that join up keep the stretch.** -/
theorem Joined.merged (hperiod : 0 < period) (h : Joined S period clock rows) (hclock : clock ≤ nowMs)
    {ranges : List (ℤ × ℤ)} (hjoin : AllJoin rows ranges)
    (hm : Merged S period nowMs (InRanges S period nowMs ranges) rows rows') : Joined S period nowMs rows' := by
  have hrows' := h.toRowsOk.merged hclock hm fun t ⟨_, _, ht⟩ => ht.1
  have hnow := h.mono hperiod hclock
  refine ⟨hrows', fun a ha b hb t ht hat htb => ?_, fun r hr q hq hlt => ?_⟩
  · by_cases hfetched : InRanges S period nowMs ranges t
    · exact hm.fresh t hfetched
    -- the time lies outside every range, so it lies between two rows that were there
    have houtside : ∀ range ∈ ranges, range.1 ≤ t → range.2 ≤ t := by
      intro range hrange hlow
      by_contra hhigh
      exact hfetched ⟨range, hrange, ht, hlow, not_le.mp hhigh⟩
    suffices hstored : ∃ r ∈ rows, r.ts = t by
      obtain ⟨r, hr, rfl⟩ := hstored
      exact hm.times hr
    have hlow : ∃ r ∈ rows, r.ts ≤ t := by
      rcases hm.mem a ha with ⟨⟨range, hrange, -, hlow, hhigh⟩, -⟩ | ⟨ha, -⟩
      · rcases hjoin with ⟨hempty, hone⟩ | hjoin
        · exfalso
          have hpast := houtside range hrange (hlow.trans hat)
          rcases hm.mem b hb with ⟨⟨range', hrange', -, -, hhigh'⟩, -⟩ | ⟨hb, -⟩
          · rw [hone _ hrange' _ hrange] at hhigh'
            omega
          · rw [hempty] at hb
            cases hb
        · obtain ⟨-, r, hr, hle⟩ := hjoin range hrange
          exact ⟨r, hr, hle.trans (houtside range hrange (hlow.trans hat))⟩
      · exact ⟨a, ha, hat⟩
    have hhigh : ∃ r ∈ rows, t ≤ r.ts := by
      rcases hm.mem b hb with ⟨⟨range, hrange, -, hlow', hhigh⟩, -⟩ | ⟨hb, -⟩
      · rcases hjoin with ⟨hempty, -⟩ | hjoin
        · obtain ⟨r, hr, -⟩ := hlow
          rw [hempty] at hr
          cases hr
        · obtain ⟨⟨r, hr, hle⟩, -⟩ := hjoin range hrange
          refine ⟨r, hr, ?_⟩
          by_contra hlt
          have := houtside range hrange (by omega)
          omega
      · exact ⟨b, hb, htb⟩
    obtain ⟨x, hx, hxt⟩ := hlow
    obtain ⟨y, hy, hty⟩ := hhigh
    exact hnow.between x hx y hy t ht hxt hty
  · have hrt := hrows'.opened r hr
    rcases hm.mem r hr with ⟨-, hkept⟩ | ⟨hold, hnot⟩
    · exact hkept
    · by_cases hlater : ∃ q' ∈ rows, r.ts < q'.ts
      · obtain ⟨q', hq', hlt'⟩ := hlater
        exact hnow.settled r hold q' hq' hlt'
      · -- the newest row is in the range of a later one
        push Not at hlater
        exfalso
        rcases hm.mem q hq with ⟨⟨range, hrange, -, -, hhigh⟩, -⟩ | ⟨hq, -⟩
        · rcases hjoin with ⟨hempty, -⟩ | hjoin
          · rw [hempty] at hold
            cases hold
          · obtain ⟨⟨r₀, hr₀, hle⟩, -⟩ := hjoin range hrange
            exact hnot ⟨range, hrange, hrt, hle.trans (hlater r₀ hr₀), hlt.trans hhigh⟩
        · exact absurd (hlater q hq) (not_le.mpr hlt)

/-- Every pair's candles are one stretch. -/
def StoreJoined (w : World) (clock : ℤ) (d : MarketStore) : Prop :=
  ∀ pair, Joined (w.series pair) (periodMs pair.2) clock (d.candles pair)

theorem StoreJoined.set (h : StoreJoined w clock d) (hrows : Joined (w.series pair) (periodMs pair.2) clock rows) :
    StoreJoined w clock (d.set pair rows) := by
  intro p
  rw [set_candles]
  split
  · rename_i hp
    subst hp
    exact hrows
  · exact h p

theorem StoreJoined.backfillPairs {bf : BackfillRequest} {pairs : List Pair} (h : StoreJoined w bf.nowMs d)
    (hjoin : BackfillJoins (w.provider outage bf.nowMs) bf d pairs) :
    StoreJoined w bf.nowMs (backfillPairs (w.provider outage bf.nowMs) bf d pairs).1 := by
  induction pairs generalizing d with
  | nil => exact h
  | cons pair pairs ih =>
    refine ih ?_ hjoin.2
    rcases backfillPair_store bf with hsame | ⟨rows', cutoff, hmerged, hstore⟩
    · rw [hsame]
      exact h
    · rw [hstore]
      exact h.set (((h pair).merged (periodMs_pos _) le_rfl (.of_joinsUp hjoin.1) hmerged).prune cutoff)

/-- **A call whose range joins up keeps the stretches.** -/
theorem ingestionStep_joined {s : IngestionState} {a : IngestionAction} (h : StoreJoined w s.clock s.store)
    (ha : ClockAdvances s a) (hjoin : Joins w s a) :
    StoreJoined w (ingestionStep w s a).clock (ingestionStep w s a).store := by
  have hnow : StoreJoined w a.nowMs s.store := fun pair => (h pair).mono (periodMs_pos _) ha
  cases a with
  | read req outage =>
    simp only [ingestionStep]
    rcases read_store (w.provider outage req.nowMs) rfl with
      hsame | ⟨i, written, rows', hresolve, hprefix, hmerged, hstore⟩
    · rw [hsame]
      exact hnow
    · have hwritten := (allJoin_rangesOf (hjoin i hresolve)).subset hprefix.subset
      have hrows' := (h (i, req.timeframe)).merged (periodMs_pos _) ha hwritten hmerged
      rcases hstore with hstore | ⟨cutoff, hstore⟩
      · rw [hstore]
        exact hnow.set hrows'
      · rw [hstore]
        exact hnow.set (hrows'.prune cutoff)
  | backfill bf outage =>
    simp only [ingestionStep]
    rcases backfill_store (w.provider outage bf.nowMs) s.store bf with hsame | hstore
    · rw [hsame]
      exact hnow
    · rw [hstore]
      exact StoreJoined.backfillPairs hnow hjoin

theorem Joined.complete (h : Joined S (periodMs req.timeframe) clock rows) (hclock : clock ≤ req.nowMs)
    (hnewest : NewestFinal S req rows) : NoGap S req rows ∧ NoneStale S req rows := by
  have hnow := h.mono (periodMs_pos _) hclock
  refine ⟨fun a ha b hb => hnow.between a (mem_rangeRows.mp ha).1 b (mem_rangeRows.mp hb).1,
    fun r hr hclosed hnot => ?_⟩
  obtain ⟨hrow, hfrom, hto⟩ := mem_rangeRows.mp hr
  by_cases hlater : ∃ q ∈ rows, r.ts < q.ts
  · obtain ⟨q, hq, hlt⟩ := hlater
    exact hnow.settled r hrow q hq hlt
  · push Not at hlater
    refine hnewest r hr hlater hclosed ?_
    by_contra hfits
    exact hnot ⟨not_le.mp hfits, fun q hq => hlater q (mem_rangeRows.mp hq).1⟩

/-! ## Over histories -/

theorem storeOk_initial (w : World) (instruments : List Instrument) (clock : ℤ) :
    StoreOk w clock (IngestionState.initial instruments clock).store :=
  fun _ => ⟨List.nodup_nil, fun _ hr => absurd hr List.not_mem_nil⟩

theorem storeJoined_initial (w : World) (instruments : List Instrument) (clock : ℤ) :
    StoreJoined w clock (IngestionState.initial instruments clock).store :=
  fun pair => ⟨storeOk_initial w instruments clock pair, fun _ ha => absurd ha List.not_mem_nil,
    fun _ hr => absurd hr List.not_mem_nil⟩

/-- **Fetch-through reads**, after any history of reads and backfills whose clocks do not go back: a
    successful read returns candles of the provider only, and all of them before the first and after the
    last stored one of its range; it returns all of them, the closed ones final, exactly when the stored
    candles of the range have no gap and none that is not fetched again is stale.  So it does after a history
    whose ranges join up, when the newest stored candle is final or fetched again. -/
theorem reads_complete_iff (w : World) (instruments : List Instrument) (clock : ℤ) (acts : List IngestionAction)
    (hclock : Meets (ingestionStep w) ClockAdvances (.initial instruments clock) acts) {s : IngestionState}
    (hs : Reached (ingestionStep w) (.initial instruments clock) acts s) (req : CandleReadRequest)
    (hnow : s.clock ≤ req.nowMs) (outage : Outage) {result : CandlesResponse}
    (hread : (getCandles (some (w.provider outage req.nowMs)) s.store req).2 = .ok result) :
    let S := w.series (result.instrument, req.timeframe)
    let rows := s.store.candles (result.instrument, req.timeframe)
    EndsComplete S req rows result.candles ∧
      (Complete S req result.candles ↔ NoGap S req rows ∧ NoneStale S req rows) ∧
      (Meets (ingestionStep w) (Joins w) (.initial instruments clock) acts → NewestFinal S req rows →
        Complete S req result.candles) := by
  have hokstep : ∀ s a, StoreOk w s.clock s.store → ClockAdvances s a →
      StoreOk w (ingestionStep w s a).clock (ingestionStep w s a).store := fun _ _ h ha => ingestionStep_storeOk h ha
  have hjoinstep : ∀ s a, StoreJoined w s.clock s.store → ClockAdvances s a ∧ Joins w s a →
      StoreJoined w (ingestionStep w s a).clock (ingestionStep w s a).store :=
    fun _ _ h ha => ingestionStep_joined h ha.1 ha.2
  have hok : StoreOk w s.clock s.store :=
    inv_of_reached _ hokstep (storeOk_initial w instruments clock) hclock hs
  have hiff := read_complete_iff (hok (result.instrument, req.timeframe)) hnow hread
  refine ⟨read_ends (hok (result.instrument, req.timeframe)) hnow hread, hiff, fun hjoins hnewest => hiff.mpr ?_⟩
  have hjoined : StoreJoined w s.clock s.store :=
    inv_of_reached _ hjoinstep (storeJoined_initial w instruments clock) (meets_and _ hclock hjoins) hs
  exact (hjoined (result.instrument, req.timeframe)).complete hnow hnewest

/-! ## One-minute candles of one instrument -/

def sampleInstrument : Instrument := ⟨"forex", "EURUSD"⟩

/-- Candles from `1700000040000` on, whose highs rise when they close. -/
def sampleWorld : World where
  providerId := "twelve-data"
  series _ := ⟨1700000040000, fun _ => ⟨.fin 1, .fin 2, .fin 1, .fin 1, none⟩,
    fun _ _ => ⟨.fin 1, .fin 1, .fin 1, .fin 1, none⟩⟩

def noOutage : Outage := fun _ _ _ => none

/-- The open time of a candle. -/
def minute (n : ℤ) : ℤ := 1700000040000 + n * 60000

def sampleRead (fromMs toMs nowMs : ℤ) : CandleReadRequest :=
  ⟨sampleInstrument, .m1, fromMs, toMs, 500, nowMs, fun _ => true⟩

instance (rows : List CandleRow) (fromMs toMs : ℤ) : Decidable (JoinsUp rows fromMs toMs) :=
  inferInstanceAs (Decidable (rows = [] ∨ (∃ r ∈ rows, fromMs ≤ r.ts) ∧ ∃ r ∈ rows, r.ts ≤ toMs))

instance decidableBackfillJoins (provider : Provider) (req : BackfillRequest) :
    ∀ (d : MarketStore) (pairs : List Pair), Decidable (BackfillJoins provider req d pairs)
  | _, [] => isTrue trivial
  | d, pair :: pairs =>
    have := decidableBackfillJoins provider req (backfillPair provider req d pair).1 pairs
    inferInstanceAs (Decidable (JoinsUp (d.candles pair) req.fromMs req.toMs ∧ _))

instance (w : World) (s : IngestionState) (a : IngestionAction) : Decidable (Joins w s a) :=
  match a with
  | .read req _ => inferInstanceAs (Decidable (∀ i ∈ s.store.resolveInstrument req.instrument,
      JoinsUp (s.store.candles (i, req.timeframe)) req.fromMs req.toMs))
  | .backfill req outage => decidableBackfillJoins (w.provider outage req.nowMs) req s.store _

/-- A read while the third candle forms, and one that reaches back to it. -/
def joinedReads : List IngestionAction :=
  [.read (sampleRead (minute 0) (minute 3) (minute 2 + 30000)) noOutage,
    .read (sampleRead (minute 2) (minute 6) (minute 5 + 30000)) noOutage]

def joinedState : IngestionState :=
  run (ingestionStep sampleWorld) (.initial [sampleInstrument] (minute 0)) joinedReads

theorem joined_reads_are_complete :
    ∃ result, (getCandles (some (sampleWorld.provider noOutage (minute 7))) joinedState.store
        (sampleRead (minute 0) (minute 9) (minute 7))).2 = .ok result ∧
      result.candles.map CandleDto.time = [0, 1, 2, 3, 4, 5, 6, 7].map minute ∧
      Complete (sampleWorld.series (sampleInstrument, .m1)) (sampleRead (minute 0) (minute 9) (minute 7))
        result.candles := by
  have hrun : (getCandles (some (sampleWorld.provider noOutage (minute 7))) joinedState.store
      (sampleRead (minute 0) (minute 9) (minute 7))).2.toOption.map
        (fun r => (r.candles.map CandleDto.time, r.instrument)) =
      some ([0, 1, 2, 3, 4, 5, 6, 7].map minute, sampleInstrument) := by
    decide +kernel
  cases hread : (getCandles (some (sampleWorld.provider noOutage (minute 7))) joinedState.store
      (sampleRead (minute 0) (minute 9) (minute 7))).2 with
  | error e =>
    rw [hread] at hrun
    cases hrun
  | ok result =>
    rw [hread] at hrun
    simp only [Except.toOption, Option.map_some, Option.some.injEq, Prod.mk.injEq] at hrun
    obtain ⟨htimes, hinstrument⟩ := hrun
    refine ⟨result, rfl, htimes, ?_⟩
    have hcomplete := (reads_complete_iff sampleWorld [sampleInstrument] (minute 0) joinedReads (by decide)
      (reached_last _ _ joinedReads) (sampleRead (minute 0) (minute 9) (minute 7)) (by decide) noOutage
      hread).2.2
    rw [hinstrument] at hcomplete
    refine hcomplete (by decide +kernel) ?_
    -- another period fits after the newest candle
    have hnewest : ∀ r ∈ joinedState.store.candles (sampleInstrument, .m1),
        r.ts + periodMs .m1 < (sampleRead (minute 0) (minute 9) (minute 7)).toMs := by
      decide +kernel
    exact fun r hr _ _ hto => absurd (hnewest r (mem_rangeRows.mp hr).1) (not_lt.mpr hto)

/-- Two reads with two candles between them. -/
def splitReads : List IngestionAction :=
  [.read (sampleRead (minute 0) (minute 2) (minute 10)) noOutage,
    .read (sampleRead (minute 4) (minute 6) (minute 10)) noOutage]

def splitState : IngestionState :=
  run (ingestionStep sampleWorld) (.initial [sampleInstrument] (minute 0)) splitReads

/-- A read over both misses what lies between them. -/
theorem split_ranges_leave_gap :
    ¬ ∀ (w : World) (instruments : List Instrument) (clock : ℤ) (acts : List IngestionAction)
      (_ : Meets (ingestionStep w) ClockAdvances (.initial instruments clock) acts) (s : IngestionState)
      (_ : Reached (ingestionStep w) (.initial instruments clock) acts s) (req : CandleReadRequest)
      (_ : s.clock ≤ req.nowMs) (outage : Outage) (result : CandlesResponse)
      (_ : (getCandles (some (w.provider outage req.nowMs)) s.store req).2 = .ok result),
      Complete (w.series (result.instrument, req.timeframe)) req result.candles := by
  intro h
  have hrun : (getCandles (some (sampleWorld.provider noOutage (minute 10))) splitState.store
      (sampleRead (minute 0) (minute 6) (minute 10))).2.toOption.map
        (fun r => (r.candles.map CandleDto.time, r.instrument)) =
      some ([0, 1, 4, 5].map minute, sampleInstrument) := by
    decide +kernel
  cases hread : (getCandles (some (sampleWorld.provider noOutage (minute 10))) splitState.store
      (sampleRead (minute 0) (minute 6) (minute 10))).2 with
  | error e =>
    rw [hread] at hrun
    cases hrun
  | ok result =>
    rw [hread] at hrun
    simp only [Except.toOption, Option.map_some, Option.some.injEq, Prod.mk.injEq] at hrun
    obtain ⟨htimes, hinstrument⟩ := hrun
    have hcomplete := h sampleWorld [sampleInstrument] (minute 0) splitReads (by decide) splitState
      (reached_last _ _ splitReads) (sampleRead (minute 0) (minute 6) (minute 10)) (by decide) noOutage
      result hread
    rw [hinstrument] at hcomplete
    obtain ⟨c, hc, htime⟩ := (hcomplete.times (minute 2)).mpr (by decide)
    have hmem : minute 2 ∈ result.candles.map CandleDto.time := htime ▸ List.mem_map_of_mem hc
    rw [htimes] at hmem
    exact absurd hmem (by decide)

end VeltrixEye.MarketData
