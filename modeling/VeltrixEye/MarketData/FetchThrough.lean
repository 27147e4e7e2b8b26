import VeltrixEye.Lib.Rows
import VeltrixEye.MarketData.Ingestion

/-!
# What fetch-through reads return (`market-data/ingestion.ts`)

A read fetches exactly the times before the first and after the last stored candle of its range, and the
last one again when another period fits after it.
-/

namespace VeltrixEye.MarketData

variable {S : ProviderSeries} {period nowMs : ℤ}

/-! ## The provider -/

theorem periodMs_pos (tf : Timeframe) : 0 < periodMs tf := by
  cases tf <;> decide

theorem opened_mono {clock t : ℤ} (h : S.Opened period clock t) (hclock : clock ≤ nowMs) :
    S.Opened period nowMs t := ⟨h.1, h.2.1.trans hclock, h.2.2⟩

theorem opened_apart (hperiod : 0 < period) {t u n m : ℤ} (ht : S.Opened period n t) (hu : S.Opened period m u)
    (hlt : t < u) : t + period ≤ u := by
  obtain ⟨i, hi⟩ := ht.2.2
  obtain ⟨j, hj⟩ := hu.2.2
  have hij : i < j := by
    by_contra hle
    have : period * j ≤ period * i := Int.mul_le_mul_of_nonneg_left (by omega) hperiod.le
    omega
  have : period * (i + 1) ≤ period * j := Int.mul_le_mul_of_nonneg_left hij hperiod.le
  rw [mul_add, mul_one] at this
  omega

theorem mem_times (hperiod : 0 < period) {t : ℤ} : t ∈ S.times period nowMs ↔ S.Opened period nowMs t := by
  unfold ProviderSeries.times ProviderSeries.Opened
  split
  · rename_i hearly
    simp only [List.not_mem_nil, false_iff]
    rintro ⟨h₁, h₂, -⟩
    omega
  · rename_i hstarted
    have hq : 0 ≤ (nowMs - S.start) / period := Int.ediv_nonneg (by omega) hperiod.le
    simp only [List.mem_map, List.mem_range]
    constructor
    · rintro ⟨k, hk, rfl⟩
      have hle : (k : ℤ) ≤ (nowMs - S.start) / period := by omega
      have hkp : (k : ℤ) * period ≤ nowMs - S.start := (Int.le_ediv_iff_mul_le hperiod).mp hle
      have hpos : 0 ≤ (k : ℤ) * period := mul_nonneg (Int.natCast_nonneg k) hperiod.le
      exact ⟨by omega, by omega, k, by ring⟩
    · rintro ⟨h₁, h₂, j, hj⟩
      have hj0 : 0 ≤ j := by
        by_contra hneg
        have := mul_neg_of_pos_of_neg hperiod (show j < 0 by omega)
        omega
      have hle : j ≤ (nowMs - S.start) / period := by
        rw [Int.le_ediv_iff_mul_le hperiod, mul_comm]
        omega
      obtain ⟨k, rfl⟩ := Int.eq_ofNat_of_zero_le hj0
      refine ⟨k, by omega, ?_⟩
      rw [mul_comm]
      omega

theorem times_nodup (hperiod : 0 < period) : (S.times period nowMs).Nodup := by
  unfold ProviderSeries.times
  split
  · exact List.nodup_nil
  · refine List.nodup_range.map fun i j hij => ?_
    have : (i : ℤ) * period = j * period := by
      simpa using hij
    exact_mod_cast mul_right_cancel₀ hperiod.ne' this

@[simp] theorem candle_time (t : ℤ) : (S.candle period nowMs t).time = t := rfl

theorem candle_closed {n m t : ℤ} (hn : t + period ≤ n) (hm : t + period ≤ m) :
    S.candle period n t = S.candle period m t := by
  simp only [ProviderSeries.candle, hn, hm, if_true]

theorem mem_candles (hperiod : 0 < period) {a b : ℤ} {c : CandleDto} :
    c ∈ S.candles period nowMs a b ↔
      ∃ t, S.Opened period nowMs t ∧ a ≤ t ∧ t < b ∧ S.candle period nowMs t = c := by
  simp only [ProviderSeries.candles, List.mem_map, List.mem_filter, mem_times hperiod, decide_eq_true_eq,
    and_assoc]

theorem candles_nodup (hperiod : 0 < period) (a b : ℤ) :
    ((S.candles period nowMs a b).map CandleDto.time).Nodup := by
  have htimes : (S.candles period nowMs a b).map CandleDto.time =
      (S.times period nowMs).filter fun t => a ≤ t ∧ t < b := by
    simp [ProviderSeries.candles, Function.comp_def]
  rw [htimes]
  exact (times_nodup hperiod).filter _

/-! ## The upsert -/

theorem storeCandle_ts {c : CandleDto} {x : CandleColumns} (h : storeCandle c = .ok x) : x.ts = c.time := by
  unfold storeCandle at h
  split at h
  · split at h
    · cases h
      rfl
    · cases h
  · cases h

theorem storeRow_kept {slug : String} {c : CandleDto} {r : CandleRow} (h : storeRow slug c = .ok r) :
    r.ts = c.time ∧ kept c = .ok r.toDto := by
  unfold storeRow at h
  simp only [Except.bind_ok_iff] at h
  obtain ⟨x, hx, h⟩ := h
  cases h
  exact ⟨storeCandle_ts hx, Except.bind_ok_iff.mpr ⟨x, hx, rfl⟩⟩

theorem written_times {slug : String} {candles : List CandleDto} {written : List CandleRow}
    (h : candles.mapM (storeRow slug) = .ok written) :
    written.map (fun r => r.ts) = candles.map CandleDto.time := by
  induction candles generalizing written with
  | nil =>
    cases h
    rfl
  | cons c candles ih =>
    rw [List.mapM_cons] at h
    simp only [Except.bind_ok_iff] at h
    obtain ⟨r, hr, rest, hrest, h⟩ := h
    cases h
    rw [List.map_cons, List.map_cons, ih hrest, (storeRow_kept hr).1]

/-- Rows with the provider's candles of some times, as they are now, written over them. -/
structure Merged (S : ProviderSeries) (period nowMs : ℤ) (fetched : ℤ → Prop) (rows rows' : List CandleRow) :
    Prop where
  mem : ∀ r ∈ rows', (fetched r.ts ∧ kept (S.candle period nowMs r.ts) = .ok r.toDto) ∨
    (r ∈ rows ∧ ¬ fetched r.ts)
  fresh : ∀ t, fetched t → ∃ r ∈ rows', r.ts = t
  old : ∀ r ∈ rows, ¬ fetched r.ts → r ∈ rows'
  unique : (rows.map fun r => r.ts).Nodup → (rows'.map fun r => r.ts).Nodup

/-- The times a request is answered with. -/
def InRange (S : ProviderSeries) (period nowMs : ℤ) (range : ℤ × ℤ) (t : ℤ) : Prop :=
  S.Opened period nowMs t ∧ range.1 ≤ t ∧ t < range.2

theorem upsertCandles_merged (hperiod : 0 < period) {slug : String} {a b : ℤ} {rows rows' : List CandleRow}
    {n : ℕ} (h : upsertCandles rows slug (S.candles period nowMs a b) = .ok (rows', n)) :
    Merged S period nowMs (InRange S period nowMs (a, b)) rows rows' := by
  unfold upsertCandles at h
  split at h
  · cases h
  rw [Series.entries_eq_self (candles_nodup hperiod a b)] at h
  simp only [Except.bind_ok_iff] at h
  obtain ⟨written, hwritten, h⟩ := h
  cases h
  have hnodup : (written.map fun r : CandleRow => r.ts).Nodup := by
    rw [written_times hwritten]
    exact candles_nodup hperiod a b
  have hcurrent : ∀ r ∈ written, InRange S period nowMs (a, b) r.ts ∧
      kept (S.candle period nowMs r.ts) = .ok r.toDto := by
    intro r hr
    obtain ⟨c, hc, hstore⟩ := Except.mapM_ok_of_mem hwritten r hr
    obtain ⟨t, ht, hat, htb, rfl⟩ := (mem_candles hperiod).mp hc
    obtain ⟨hts, hkept⟩ := storeRow_kept hstore
    rw [candle_time] at hts
    rw [hts]
    exact ⟨⟨ht, hat, htb⟩, hkept⟩
  have hfresh : ∀ t, InRange S period nowMs (a, b) t → ∃ r ∈ written, r.ts = t := by
    rintro t ⟨ht, hat, htb⟩
    obtain ⟨r, hstore, hr⟩ :=
      Except.mapM_ok_mem hwritten _ ((mem_candles hperiod).mpr ⟨t, ht, hat, htb, rfl⟩)
    exact ⟨r, hr, (storeRow_kept hstore).1⟩
  refine ⟨fun r hr => ?_, fun t ht => ?_, fun r hr hnot => ?_, fun hrows => Series.upserts_nodup hrows _⟩
  · rcases (Series.mem_upserts hnodup).mp hr with hr | ⟨hr, hnew⟩
    · exact .inl (hcurrent r hr)
    · refine .inr ⟨hr, fun ht => ?_⟩
      obtain ⟨q, hq, hts⟩ := hfresh _ ht
      exact hnew q hq hts.symm
  · obtain ⟨r, hr, hts⟩ := hfresh t ht
    exact ⟨r, (Series.mem_upserts hnodup).mpr (.inl hr), hts⟩
  · refine (Series.mem_upserts hnodup).mpr (.inr ⟨hr, fun q hq hts => hnot ?_⟩)
    rw [hts]
    exact (hcurrent q hq).1

namespace Merged

variable {F G : ℤ → Prop} {rows rows' rows'' : List CandleRow}

theorem refl (rows : List CandleRow) : Merged S period nowMs (fun _ => False) rows rows :=
  ⟨fun _ hr => .inr ⟨hr, id⟩, fun _ h => h.elim, fun _ hr _ => hr, id⟩

theorem trans (h : Merged S period nowMs F rows rows') (h' : Merged S period nowMs G rows' rows'') :
    Merged S period nowMs (fun t => F t ∨ G t) rows rows'' := by
  refine ⟨fun r hr => ?_, fun t ht => ?_, fun r hr hnot => ?_, fun hrows => h'.unique (h.unique hrows)⟩
  · rcases h'.mem r hr with ⟨hg, hkept⟩ | ⟨hr, hg⟩
    · exact .inl ⟨.inr hg, hkept⟩
    · rcases h.mem r hr with ⟨hf, hkept⟩ | ⟨hr, hf⟩
      · exact .inl ⟨.inl hf, hkept⟩
      · exact .inr ⟨hr, not_or.mpr ⟨hf, hg⟩⟩
  · by_cases hg : G t
    · exact h'.fresh t hg
    · obtain ⟨r, hr, rfl⟩ := h.fresh t (ht.resolve_right hg)
      exact ⟨r, h'.old r hr hg, rfl⟩
  · obtain ⟨hf, hg⟩ := not_or.mp hnot
    exact h'.old r (h.old r hr hf) hg

theorem congr (h : Merged S period nowMs F rows rows') (hFG : ∀ t, F t ↔ G t) :
    Merged S period nowMs G rows rows' := by
  obtain rfl : F = G := funext fun t => propext (hFG t)
  exact h

theorem times (h : Merged S period nowMs F rows rows') {r : CandleRow} (hr : r ∈ rows) :
    ∃ q ∈ rows', q.ts = r.ts := by
  by_cases hf : F r.ts
  · exact h.fresh _ hf
  · exact ⟨r, h.old r hr hf, rfl⟩

end Merged

/-! ## The rows of a pair in every history -/

structure RowsOk (S : ProviderSeries) (period clock : ℤ) (rows : List CandleRow) : Prop where
  unique : (rows.map fun r => r.ts).Nodup
  opened : ∀ r ∈ rows, S.Opened period clock r.ts

variable {clock : ℤ} {rows rows' : List CandleRow} {F : ℤ → Prop}

theorem RowsOk.mono (h : RowsOk S period clock rows) (hclock : clock ≤ nowMs) : RowsOk S period nowMs rows :=
  ⟨h.unique, fun r hr => opened_mono (h.opened r hr) hclock⟩

theorem RowsOk.merged (h : RowsOk S period clock rows) (hclock : clock ≤ nowMs)
    (hm : Merged S period nowMs F rows rows') (hF : ∀ t, F t → S.Opened period nowMs t) :
    RowsOk S period nowMs rows' := by
  refine ⟨hm.unique h.unique, fun r hr => ?_⟩
  rcases hm.mem r hr with ⟨hf, -⟩ | ⟨hr, -⟩
  · exact hF _ hf
  · exact opened_mono (h.opened r hr) hclock

theorem RowsOk.prune (h : RowsOk S period clock rows) (cutoff : ℤ) :
    RowsOk S period clock (pruneBeyondRetention rows cutoff) :=
  ⟨(List.filter_sublist.map _).nodup h.unique, fun r hr => h.opened r (List.mem_of_mem_filter hr)⟩

/-! ## The ranges of a read -/

variable {w : World} {outage : Outage} {pair : Pair}

theorem fetchRange_merged {range : ℤ × ℤ} {n : ℕ}
    (h : fetchRange (w.provider outage nowMs) pair rows range.1 range.2 = .ok (rows', n)) :
    Merged (w.series pair) (periodMs pair.2) nowMs (InRange (w.series pair) (periodMs pair.2) nowMs range)
      rows rows' := by
  unfold fetchRange World.provider at h
  dsimp only at h
  split at h
  · cases h
  rename_i candles hanswer
  split at hanswer
  · cases hanswer
  · cases hanswer
    exact upsertCandles_merged (periodMs_pos _) h

/-- A time of one of the ranges. -/
def InRanges (S : ProviderSeries) (period nowMs : ℤ) (ranges : List (ℤ × ℤ)) (t : ℤ) : Prop :=
  ∃ range ∈ ranges, InRange S period nowMs range t

/-- **The loop writes a prefix of its ranges**, and all of them when it succeeds. -/
theorem fetchMissing_merged {mayRequest : ℤ × ℤ → Bool} {ranges : List (ℤ × ℤ)} {rows rows' : List CandleRow}
    {result : Except IngestionError Unit}
    (h : fetchMissing (w.provider outage nowMs) mayRequest pair rows ranges = (rows', result)) :
    ∃ written, written <+: ranges ∧ (result = .ok () → written = ranges) ∧
      Merged (w.series pair) (periodMs pair.2) nowMs (InRanges (w.series pair) (periodMs pair.2) nowMs written)
        rows rows' := by
  have stopped : ∀ rows, Merged (w.series pair) (periodMs pair.2) nowMs
      (InRanges (w.series pair) (periodMs pair.2) nowMs []) rows rows :=
    fun rows => (Merged.refl rows).congr fun t => by simp [InRanges]
  induction ranges generalizing rows with
  | nil =>
    cases h
    exact ⟨[], List.prefix_rfl, fun _ => rfl, stopped _⟩
  | cons range ranges ih =>
    unfold fetchMissing at h
    split at h
    · split at h
      · cases h
        exact ⟨[], List.nil_prefix, nofun, stopped _⟩
      · rename_i fetched n hfetch
        obtain ⟨written, hprefix, hall, hmerged⟩ := ih h
        refine ⟨range :: written, List.cons_prefix_cons.mpr ⟨rfl, hprefix⟩, fun hok => by rw [hall hok],
          ((fetchRange_merged hfetch).trans hmerged).congr fun t => ?_⟩
        simp [InRanges]
    · cases h
      exact ⟨[], List.nil_prefix, nofun, stopped _⟩

theorem mem_rangeRows {a b : ℤ} {r : CandleRow} : r ∈ rangeRows rows a b ↔ r ∈ rows ∧ a ≤ r.ts ∧ r.ts < b := by
  simp [rangeRows]

/-- The ranges of a read, from the rows it finds. -/
def rangesOf (req : CandleReadRequest) (rows : List CandleRow) : List (ℤ × ℤ) :=
  missingRanges req.fromMs req.toMs (rangeStats rows req.fromMs req.toMs).1
    (rangeStats rows req.fromMs req.toMs).2 (periodMs req.timeframe)

variable {req : CandleReadRequest}

theorem rangesOf_empty (h : rangeRows rows req.fromMs req.toMs = []) :
    rangesOf req rows = [(req.fromMs, req.toMs)] := by
  simp [rangesOf, rangeStats, h, missingRanges]

theorem rangesOf_cons (h : rangeRows rows req.fromMs req.toMs ≠ []) :
    ∃ first ∈ rangeRows rows req.fromMs req.toMs, ∃ last ∈ rangeRows rows req.fromMs req.toMs,
      (∀ r ∈ rangeRows rows req.fromMs req.toMs, first.ts ≤ r.ts ∧ r.ts ≤ last.ts) ∧
      ∀ range, range ∈ rangesOf req rows ↔
        (req.fromMs + periodMs req.timeframe ≤ first.ts ∧ range = (req.fromMs, first.ts)) ∨
          (last.ts + periodMs req.timeframe < req.toMs ∧ range = (last.ts, req.toMs)) := by
  have hne : (rangeRows rows req.fromMs req.toMs).map (fun r => r.ts) ≠ [] := by simpa using h
  obtain ⟨e, he⟩ := Option.isSome_iff_exists.mp (List.isSome_min?_of_ne_nil hne)
  obtain ⟨l, hl⟩ := Option.isSome_iff_exists.mp (List.isSome_max?_of_ne_nil hne)
  obtain ⟨⟨first, hfirst, rfl⟩, hmin⟩ := Series.min?_key he
  obtain ⟨⟨last, hlast, rfl⟩, hmax⟩ := Series.max?_key hl
  refine ⟨first, hfirst, last, hlast, fun r hr => ⟨hmin r hr, hmax r hr⟩, fun range => ?_⟩
  simp only [rangesOf, rangeStats, he, hl, missingRanges, List.mem_append, List.mem_ite_nil_right,
    List.mem_singleton]

/-- **The times a read fetches**: those before its first and after its last stored candle, and the last
    one when another period fits after it. -/
theorem fetched_iff (hrows : RowsOk S (periodMs req.timeframe) clock rows) {t : ℤ}
    (ht : S.Opened (periodMs req.timeframe) nowMs t) (hfrom : req.fromMs ≤ t) (hto : t < req.toMs) :
    InRanges S (periodMs req.timeframe) nowMs (rangesOf req rows) t ↔
      (∀ r ∈ rangeRows rows req.fromMs req.toMs, t < r.ts) ∨
        (∀ r ∈ rangeRows rows req.fromMs req.toMs, r.ts < t) ∨
        ∃ r ∈ rangeRows rows req.fromMs req.toMs, r.ts = t ∧ Refetched req rows r := by
  by_cases hempty : rangeRows rows req.fromMs req.toMs = []
  · simp [InRanges, InRange, rangesOf_empty hempty, hempty, ht, hfrom, hto]
  obtain ⟨first, hfirst, last, hlast, hbetween, hranges⟩ := rangesOf_cons hempty
  have hperiod := periodMs_pos req.timeframe
  have hopened : ∀ r ∈ rangeRows rows req.fromMs req.toMs, S.Opened (periodMs req.timeframe) clock r.ts :=
    fun r hr => hrows.opened r (mem_rangeRows.mp hr).1
  constructor
  · rintro ⟨range, hrange, -, hlow, hhigh⟩
    rcases (hranges range).mp hrange with ⟨-, rfl⟩ | ⟨hfits, rfl⟩
    · exact .inl fun r hr => lt_of_lt_of_le hhigh (hbetween r hr).1
    · rcases eq_or_lt_of_le hlow with heq | hlt
      · exact .inr (.inr ⟨last, hlast, heq, hfits, fun q hq => (hbetween q hq).2⟩)
      · exact .inr (.inl fun r hr => lt_of_le_of_lt (hbetween r hr).2 hlt)
  · rintro (hbefore | hafter | ⟨r, hr, rfl, hfits, hlatest⟩)
    · have hhead : t + periodMs req.timeframe ≤ first.ts :=
        opened_apart hperiod ht (hopened first hfirst) (hbefore first hfirst)
      exact ⟨_, (hranges _).mpr (.inl ⟨by omega, rfl⟩), ht, hfrom, hbefore first hfirst⟩
    · have htail : last.ts + periodMs req.timeframe ≤ t :=
        opened_apart hperiod (hopened last hlast) ht (hafter last hlast)
      exact ⟨_, (hranges _).mpr (.inr ⟨by omega, rfl⟩), ht, (hafter last hlast).le, hto⟩
    · have hsame : r.ts = last.ts := le_antisymm (hbetween r hr).2 (hlatest last hlast)
      rw [hsame] at hfits ht hto ⊢
      exact ⟨_, (hranges _).mpr (.inr ⟨hfits, rfl⟩), ht, le_rfl, hto⟩

theorem fetched_within {t : ℤ} (h : InRanges S (periodMs req.timeframe) nowMs (rangesOf req rows) t) :
    S.Opened (periodMs req.timeframe) nowMs t ∧ req.fromMs ≤ t ∧ t < req.toMs := by
  obtain ⟨range, hrange, ht, hlow, hhigh⟩ := h
  by_cases hempty : rangeRows rows req.fromMs req.toMs = []
  · rw [rangesOf_empty hempty, List.mem_singleton] at hrange
    subst hrange
    exact ⟨ht, hlow, hhigh⟩
  · obtain ⟨first, hfirst, last, hlast, -, hranges⟩ := rangesOf_cons hempty
    obtain ⟨-, -, hfirst⟩ := mem_rangeRows.mp hfirst
    obtain ⟨-, hlast, -⟩ := mem_rangeRows.mp hlast
    rcases (hranges range).mp hrange with ⟨-, rfl⟩ | ⟨-, rfl⟩
    · exact ⟨ht, hlow, hhigh.trans hfirst⟩
    · exact ⟨ht, hlast.trans hlow, hhigh⟩

/-! ## A read -/

variable {d : MarketStore} {result : CandlesResponse}

theorem rangeRows_prune {cutoff a b : ℤ} (h : cutoff ≤ a) :
    rangeRows (pruneBeyondRetention rows cutoff) a b = rangeRows rows a b := by
  unfold rangeRows pruneBeyondRetention
  rw [List.filter_filter]
  refine List.filter_congr fun r _ => ?_
  simp only [Bool.decide_and, Bool.and_eq_left_iff_imp, Bool.and_eq_true, decide_eq_true_eq, and_imp]
  omega

theorem readStored_ok {instrument : Instrument} {fetched : Bool}
    (h : readStored req instrument fetched rows = .ok result) :
    result.instrument = instrument ∧ result.candles =
      ((rangeRows rows req.fromMs req.toMs).insertionSort fun a b => a.ts ≤ b.ts).map fun r => r.toDto := by
  unfold readStored at h
  dsimp only at h
  split at h
  · cases h
  rename_i hlimit
  cases h
  refine ⟨rfl, ?_⟩
  simp only [queryCandles, List.length_map, List.length_take] at hlimit ⊢
  rw [List.take_of_length_le (by omega)]

/-- **A successful read** returns the rows of its range after the fetches, in ascending order. -/
theorem read_merged (h : (getCandles (some (w.provider outage req.nowMs)) d req).2 = .ok result) :
    ∃ rows', Merged (w.series (result.instrument, req.timeframe)) (periodMs req.timeframe) req.nowMs
        (InRanges (w.series (result.instrument, req.timeframe)) (periodMs req.timeframe) req.nowMs
          (rangesOf req (d.candles (result.instrument, req.timeframe))))
        (d.candles (result.instrument, req.timeframe)) rows' ∧
      result.candles =
        ((rangeRows rows' req.fromMs req.toMs).insertionSort fun a b => a.ts ≤ b.ts).map fun r => r.toDto := by
  unfold getCandles at h
  split at h
  · cases h
  rename_i instrument hresolve
  dsimp only at h
  split at h
  · cases h
  rename_i hcutoff
  split at h
  · rename_i hranges
    obtain ⟨rfl, hcandles⟩ := readStored_ok h
    refine ⟨_, (Merged.refl _).congr fun t => ?_, hcandles⟩
    have hnone : rangesOf req (d.candles (result.instrument, req.timeframe)) = [] := hranges
    simp [InRanges, hnone]
  · cases h
  · rename_i hprovider _
    cases hprovider
    split at h
    · cases h
    rename_i rows' hfetch
    obtain ⟨rfl, hcandles⟩ := readStored_ok h
    obtain ⟨written, -, hall, hmerged⟩ := fetchMissing_merged hfetch
    rw [hall rfl] at hmerged
    rw [rangeRows_prune (not_lt.mp hcutoff)] at hcandles
    exact ⟨rows', hmerged, hcandles⟩

theorem mem_read {rows' : List CandleRow} (h : result.candles =
      ((rangeRows rows' req.fromMs req.toMs).insertionSort fun a b => a.ts ≤ b.ts).map fun r => r.toDto)
    {c : CandleDto} : c ∈ result.candles ↔ ∃ r ∈ rangeRows rows' req.fromMs req.toMs, r.toDto = c := by
  rw [h]
  simp only [List.mem_map, List.mem_insertionSort]

/-- **What every read returns.** -/
theorem read_ends (hrows : RowsOk (w.series (result.instrument, req.timeframe)) (periodMs req.timeframe) clock
      (d.candles (result.instrument, req.timeframe))) (hclock : clock ≤ req.nowMs)
    (h : (getCandles (some (w.provider outage req.nowMs)) d req).2 = .ok result) :
    EndsComplete (w.series (result.instrument, req.timeframe)) req
      (d.candles (result.instrument, req.timeframe)) result.candles := by
  obtain ⟨rows', hmerged, hcandles⟩ := read_merged h
  have hrows' := hrows.merged hclock hmerged fun t ht => (fetched_within ht).1
  refine ⟨?_, fun c hc => ?_, fun t ht hfrom hto hend => ?_⟩
  · rw [hcandles, List.pairwise_map]
    have hnodup : (((rangeRows rows' req.fromMs req.toMs).insertionSort fun a b => a.ts ≤ b.ts).map
        fun r => r.ts).Nodup := by
      have hperm := (List.perm_insertionSort (fun a b : CandleRow => a.ts ≤ b.ts)
        (rangeRows rows' req.fromMs req.toMs)).map fun r => r.ts
      exact hperm.nodup_iff.mpr ((List.filter_sublist.map _).nodup hrows'.unique)
    exact Series.strict_of_nodup (List.pairwise_insertionSort _ _) hnodup
  · obtain ⟨r, hr, rfl⟩ := (mem_read hcandles).mp hc
    obtain ⟨hr, hfrom, hto⟩ := mem_rangeRows.mp hr
    exact ⟨hrows'.opened r hr, hfrom, hto⟩
  · have hfetched := (fetched_iff hrows ht hfrom hto).mpr (hend.imp_right .inl)
    obtain ⟨r, hr, rfl⟩ := hmerged.fresh t hfetched
    have hkept : kept ((w.series (result.instrument, req.timeframe)).candle (periodMs req.timeframe) req.nowMs r.ts) =
        .ok r.toDto := by
      rcases hmerged.mem r hr with ⟨-, hkept⟩ | ⟨-, hnot⟩
      · exact hkept
      · exact absurd hfetched hnot
    exact ⟨r.toDto, (mem_read hcandles).mpr ⟨r, mem_rangeRows.mpr ⟨hr, hfrom, hto⟩, rfl⟩, hkept⟩

/-- **When a read returns the provider's candles.** -/
theorem read_complete_iff (hrows : RowsOk (w.series (result.instrument, req.timeframe)) (periodMs req.timeframe) clock
      (d.candles (result.instrument, req.timeframe))) (hclock : clock ≤ req.nowMs)
    (h : (getCandles (some (w.provider outage req.nowMs)) d req).2 = .ok result) :
    Complete (w.series (result.instrument, req.timeframe)) req result.candles ↔
      NoGap (w.series (result.instrument, req.timeframe)) req (d.candles (result.instrument, req.timeframe)) ∧
      NoneStale (w.series (result.instrument, req.timeframe)) req
        (d.candles (result.instrument, req.timeframe)) := by
  have hends := read_ends hrows hclock h
  obtain ⟨rows', hmerged, hcandles⟩ := read_merged h
  -- a stored candle of the range that is fetched is the last one
  have hunfetched : ∀ r ∈ rangeRows (d.candles (result.instrument, req.timeframe)) req.fromMs req.toMs,
      ¬ Refetched req (d.candles (result.instrument, req.timeframe)) r →
      ¬ InRanges (w.series (result.instrument, req.timeframe)) (periodMs req.timeframe) req.nowMs
        (rangesOf req (d.candles (result.instrument, req.timeframe))) r.ts := by
    intro r hr hnot hfetched
    obtain ⟨ht, hfrom, hto⟩ := fetched_within hfetched
    rcases (fetched_iff hrows ht hfrom hto).mp hfetched with hbefore | hafter | ⟨q, hq, hts, hrefetched⟩
    · exact absurd (hbefore r hr) (lt_irrefl _)
    · exact absurd (hafter r hr) (lt_irrefl _)
    · have hsame := Rows.eq_of_key hrows.unique (mem_rangeRows.mp hq).1 (mem_rangeRows.mp hr).1 hts
      rw [hsame] at hrefetched
      exact hnot hrefetched
  constructor
  · rintro ⟨-, htimes, hfinal⟩
    refine ⟨fun a ha b hb t ht hat htb => ?_, fun r hr hclosed hnot => ?_⟩
    · have hfrom := (mem_rangeRows.mp ha).2.1.trans hat
      have hto := lt_of_le_of_lt htb (mem_rangeRows.mp hb).2.2
      obtain ⟨c, hc, rfl⟩ := (htimes t).mpr ⟨ht, hfrom, hto⟩
      obtain ⟨r', hr', rfl⟩ := (mem_read hcandles).mp hc
      rcases hmerged.mem r' (mem_rangeRows.mp hr').1 with ⟨hfetched, -⟩ | ⟨hr', -⟩
      · rcases (fetched_iff hrows ht hfrom hto).mp hfetched with hbefore | hafter | ⟨q, hq, hts, -⟩
        · exact absurd (hbefore a ha) (not_lt.mpr hat)
        · exact absurd (hafter b hb) (not_lt.mpr htb)
        · exact ⟨q, (mem_rangeRows.mp hq).1, hts⟩
      · exact ⟨r', hr', rfl⟩
    · have hr' := hmerged.old r (mem_rangeRows.mp hr).1 (hunfetched r hr hnot)
      have hc := (mem_read hcandles).mpr ⟨r, mem_rangeRows.mpr ⟨hr', (mem_rangeRows.mp hr).2⟩, rfl⟩
      exact hfinal r.toDto hc hclosed
  · rintro ⟨hgap, hstale⟩
    refine ⟨hends.ascending, fun t => ⟨?_, ?_⟩, fun c hc hclosed => ?_⟩
    · rintro ⟨c, hc, rfl⟩
      exact hends.opened c hc
    · rintro ⟨ht, hfrom, hto⟩
      have hstored : ∃ r ∈ rows', r.ts = t := by
        by_cases hfetched : InRanges (w.series (result.instrument, req.timeframe)) (periodMs req.timeframe)
            req.nowMs (rangesOf req (d.candles (result.instrument, req.timeframe))) t
        · exact hmerged.fresh t hfetched
        · have hinside := mt (fetched_iff hrows ht hfrom hto).mpr hfetched
          obtain ⟨hnotBefore, hnotAfter⟩ := not_or.mp hinside
          push Not at hnotBefore
          obtain ⟨a, ha, hat⟩ := hnotBefore
          have hafter := (not_or.mp hnotAfter).1
          push Not at hafter
          obtain ⟨b, hb, htb⟩ := hafter
          obtain ⟨r, hr, hts⟩ := hgap a ha b hb t ht hat htb
          obtain ⟨r', hr', hts'⟩ := hmerged.times hr
          exact ⟨r', hr', hts'.trans hts⟩
      obtain ⟨r, hr, rfl⟩ := hstored
      exact ⟨r.toDto, (mem_read hcandles).mpr ⟨r, mem_rangeRows.mpr ⟨hr, hfrom, hto⟩, rfl⟩, rfl⟩
    · obtain ⟨r, hr, rfl⟩ := (mem_read hcandles).mp hc
      rcases hmerged.mem r (mem_rangeRows.mp hr).1 with ⟨-, hkept⟩ | ⟨hold, hnot⟩
      · exact hkept
      · obtain ⟨-, hfrom, hto⟩ := mem_rangeRows.mp hr
        have hr' := mem_rangeRows.mpr ⟨hold, hfrom, hto⟩
        refine hstale r hr' hclosed fun hrefetched => hnot ?_
        exact (fetched_iff hrows (opened_mono (hrows.opened r hold) hclock) hfrom hto).mpr
          (.inr (.inr ⟨r, hr', rfl, hrefetched⟩))

end VeltrixEye.MarketData
