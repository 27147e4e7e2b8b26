import VeltrixEye.Strategies.Engine
import VeltrixEye.Strategies.Mirror

/-!
# The side of a candidate's levels (`deriveCandidate`, `detectionLevels`)

A candidate of valid candles under an accepted risk configuration has its stop on the losing side of
its entry and each target on the winning side, and the persistence boundary keeps them.

* `atrWilder_nonneg`, `structureStop_side`, `structuralTarget_side` — what the legs are made from.
-/

namespace VeltrixEye

/-! ## Accepted configurations -/

/-- `riskConfigurationSchema.safeParse(raw)`. -/
def riskConfigurationSchema (raw : JsValue) : Option VersionRisk := do
  let fields ← strictFields
    ["minRr", "stopLossMethod", "stopLossBuffer", "stopLossBufferUnit", "takeProfitMethod", "tp1Rr",
      "tp2Rr", "tp3Rr", "minQualityScore"] raw
  let minRr ← ratField (positiveUpTo 100) 2 (JsValue.lookup fields "minRr")
  let stopLossMethod ← enumField .structure
    [("structure", .structure), ("fixed", .fixed), ("atr", .atr)] (JsValue.lookup fields "stopLossMethod")
  let stopLossBuffer ← ratField (between 0 10000) 1 (JsValue.lookup fields "stopLossBuffer")
  let stopLossBufferUnit ← enumField .pips [("pips", .pips), ("pct", .pct)]
    (JsValue.lookup fields "stopLossBufferUnit")
  let takeProfitMethod ← enumField .rr [("rr", .rr), ("structure", .structure), ("manual", .manual)]
    (JsValue.lookup fields "takeProfitMethod")
  let tp1Rr ← ratField (positiveUpTo 100) 1 (JsValue.lookup fields "tp1Rr")
  let tp2Rr ← ratField (positiveUpTo 100) 2 (JsValue.lookup fields "tp2Rr")
  let tp3Rr ← ratField (positiveUpTo 100) 3 (JsValue.lookup fields "tp3Rr")
  let minQualityScore ← natField 0 100 65 (JsValue.lookup fields "minQualityScore")
  -- the schema's own refinement of the rr method
  if takeProfitMethod = .rr ∧ ¬(tp1Rr < tp2Rr ∧ tp2Rr < tp3Rr) then none
  else
    return ⟨minRr, stopLossMethod, stopLossBuffer, stopLossBufferUnit, takeProfitMethod, tp1Rr, tp2Rr,
      tp3Rr, minQualityScore⟩

/-- What an accepted configuration satisfies. -/
structure VersionRisk.Accepted (risk : VersionRisk) : Prop where
  minRr_pos : 0 < risk.minRr
  buffer_nonneg : 0 ≤ risk.stopLossBuffer
  tp1_pos : 0 < risk.tp1Rr
  tp2_pos : 0 < risk.tp2Rr
  tp3_pos : 0 < risk.tp3Rr
  increasing : risk.takeProfitMethod = .rr → risk.tp1Rr < risk.tp2Rr ∧ risk.tp2Rr < risk.tp3Rr

theorem ratField_some {ok : ℚ → Bool} {dflt q : ℚ} {v : JsValue} (h : ratField ok dflt v = some q)
    (hdflt : ok dflt = true) : ok q = true := by
  unfold ratField at h
  split at h
  · cases h
    exact hdflt
  · split at h
    · cases h
      assumption
    · cases h
  · cases h

theorem riskConfigurationSchema_ok {raw : JsValue} {risk : VersionRisk}
    (h : riskConfigurationSchema raw = some risk) : risk.Accepted := by
  obtain ⟨fields, -, h⟩ := Option.bind_eq_some_iff.mp h
  obtain ⟨minRr, hmin, h⟩ := Option.bind_eq_some_iff.mp h
  obtain ⟨stopLossMethod, -, h⟩ := Option.bind_eq_some_iff.mp h
  obtain ⟨stopLossBuffer, hbuffer, h⟩ := Option.bind_eq_some_iff.mp h
  obtain ⟨stopLossBufferUnit, -, h⟩ := Option.bind_eq_some_iff.mp h
  obtain ⟨takeProfitMethod, -, h⟩ := Option.bind_eq_some_iff.mp h
  obtain ⟨tp1Rr, h1, h⟩ := Option.bind_eq_some_iff.mp h
  obtain ⟨tp2Rr, h2, h⟩ := Option.bind_eq_some_iff.mp h
  obtain ⟨tp3Rr, h3, h⟩ := Option.bind_eq_some_iff.mp h
  obtain ⟨minQualityScore, -, h⟩ := Option.bind_eq_some_iff.mp h
  have hpositive : ∀ {dflt q : ℚ} {v : JsValue}, ratField (positiveUpTo 100) dflt v = some q →
      positiveUpTo 100 dflt = true → 0 < q := by
    intro dflt q v hq hdflt
    have := ratField_some hq hdflt
    simp only [positiveUpTo, Bool.and_eq_true, decide_eq_true_eq] at this
    exact this.1
  have hbetween := ratField_some hbuffer (by decide)
  simp only [between, Bool.and_eq_true, decide_eq_true_eq] at hbetween
  split at h
  · cases h
  rename_i hincreasing
  cases h
  exact {
    minRr_pos := hpositive hmin (by decide)
    buffer_nonneg := hbetween.1
    tp1_pos := hpositive h1 (by decide)
    tp2_pos := hpositive h2 (by decide)
    tp3_pos := hpositive h3 (by decide)
    increasing := fun hrr => not_not.mp fun hnot => hincreasing ⟨hrr, hnot⟩ }

/-! ## Valid candles -/

/-- `0 < low <= open, close <= high`. -/
def CandleDto.Priced (c : CandleDto) : Prop :=
  ∃ o h l k : ℚ, c.open = .fin o ∧ c.high = .fin h ∧ c.low = .fin l ∧ c.close = .fin k ∧
    0 < l ∧ l ≤ o ∧ o ≤ h ∧ l ≤ k ∧ k ≤ h

/-- A finite number that is not negative. -/
def JsNumber.NonNeg (x : JsNumber) : Prop := ∃ q : ℚ, x = .fin q ∧ 0 ≤ q

theorem foldl_add_nonneg {values : List JsNumber} (hvalues : ∀ v ∈ values, v.NonNeg) {b : JsNumber}
    (hb : b.NonNeg) : (values.foldl JsNumber.add b).NonNeg := by
  induction values generalizing b with
  | nil => exact hb
  | cons v values ih =>
    obtain ⟨p, rfl, hp⟩ := hb
    obtain ⟨q, rfl, hq⟩ := hvalues v List.mem_cons_self
    exact ih (fun x hx => hvalues x (List.mem_cons_of_mem _ hx)) ⟨p + q, rfl, by linarith⟩

theorem trueRange_nonneg {prev c : CandleDto} (hprev : prev.Priced) (hc : c.Priced) :
    (trueRange prev c).NonNeg := by
  obtain ⟨-, -, -, pk, -, -, -, hpk, -⟩ := hprev
  obtain ⟨-, h, l, -, -, hh, hl, -, -⟩ := hc
  refine ⟨max (max (h - l) |h - pk|) |l - pk|, ?_, le_max_of_le_right (abs_nonneg _)⟩
  simp only [trueRange, hpk, hh, hl, JsNumber.sub_fin, JsNumber.abs_fin, JsNumber.max_fin]

theorem atrWilder_nonneg {candles : List CandleDto} (hpriced : ∀ c ∈ candles, c.Priced) {period : ℕ}
    {atr : JsNumber} (h : atrWilder candles period = some atr) : atr.NonNeg := by
  unfold atrWilder at h
  split at h
  · cases h
  rename_i hperiod
  split at h
  · cases h
  cases h
  have hn : (2 : ℚ) ≤ period := by exact_mod_cast not_lt.mp hperiod
  have hranges : ∀ t ∈ candles.zipWith trueRange candles.tail, t.NonNeg := by
    intro t ht
    obtain ⟨i, hi, rfl⟩ := List.getElem_of_mem ht
    rw [List.getElem_zipWith]
    exact trueRange_nonneg (hpriced _ (List.getElem_mem _))
      (hpriced _ (List.mem_of_mem_tail (List.getElem_mem _)))
  have hseed : (JsNumber.div (((candles.zipWith trueRange candles.tail).take period).foldl
      JsNumber.add 0) (.fin period)).NonNeg := by
    have hzero : JsNumber.NonNeg 0 := ⟨0, rfl, le_rfl⟩
    obtain ⟨s, hs, hs0⟩ := foldl_add_nonneg
      (fun v hv => hranges v (List.mem_of_mem_take (i := period) hv)) hzero
    refine ⟨s / period, ?_, by positivity⟩
    rw [hs]
    exact if_neg (by linarith)
  -- smoothing keeps the average non-negative
  have hsmooth : ∀ (ts : List JsNumber) (a : JsNumber), (∀ t ∈ ts, t.NonNeg) → a.NonNeg →
      (ts.foldl (fun atr t => JsNumber.div (JsNumber.add (JsNumber.mul atr (.fin (period - 1))) t)
        (.fin period)) a).NonNeg := by
    intro ts
    induction ts with
    | nil => exact fun _ _ ha => ha
    | cons t ts ih =>
      rintro a hts ⟨p, rfl, hp⟩
      obtain ⟨q, rfl, hq⟩ := hts t List.mem_cons_self
      refine ih _ (fun x hx => hts x (List.mem_cons_of_mem _ hx)) ⟨(p * (period - 1) + q) / period, ?_, ?_⟩
      · exact if_neg (by linarith)
      · have : 0 ≤ p * ((period : ℚ) - 1) := mul_nonneg hp (by linarith)
        positivity
  exact hsmooth _ _ (fun t ht => hranges t (List.mem_of_mem_drop ht)) hseed

/-! ## Sides of the entry -/

/-- A price a position loses at: below a long entry, above a short one. -/
def Losing (direction : Direction) (entry price : ℚ) : Prop :=
  match direction with
  | .long => price < entry
  | .short => entry < price

/-- A price a position wins at. -/
def Winning (direction : Direction) (entry price : ℚ) : Prop :=
  match direction with
  | .long => entry < price
  | .short => price < entry

/-- A price that is not on the winning side. -/
def NotWinning (direction : Direction) (entry price : ℚ) : Prop :=
  match direction with
  | .long => price ≤ entry
  | .short => entry ≤ price

section Window

variable {window : List CandleDto} {e : ℚ}

theorem pivotHighs_priced (hpriced : ∀ c ∈ window, c.Priced) :
    ∀ p ∈ pivotHighs window PIVOT_HALF_WIDTH, ∃ q : ℚ, p.price = .fin q ∧ 0 < q := by
  intro p hp
  obtain ⟨i, -, hi⟩ := List.mem_filterMap.mp hp
  obtain ⟨c, hc, hi⟩ := Option.bind_eq_some_iff.mp hi
  split at hi
  · cases hi
  cases hi
  obtain ⟨o, h, l, -, -, hh, -, -, hl0, hlo, hoh, -, -⟩ := hpriced c (List.mem_of_getElem? hc)
  exact ⟨h, hh, by linarith⟩

theorem pivotLows_priced (hpriced : ∀ c ∈ window, c.Priced) :
    ∀ p ∈ pivotLows window PIVOT_HALF_WIDTH, ∃ q : ℚ, p.price = .fin q ∧ 0 < q := by
  intro p hp
  obtain ⟨i, -, hi⟩ := List.mem_filterMap.mp hp
  obtain ⟨c, hc, hi⟩ := Option.bind_eq_some_iff.mp hi
  split at hi
  · cases hi
  cases hi
  obtain ⟨-, -, l, -, -, -, hl, -, hl0, -⟩ := hpriced c (List.mem_of_getElem? hc)
  exact ⟨l, hl, hl0⟩

theorem minOf_fin {values : List JsNumber} (hne : values ≠ []) (hfin : ∀ v ∈ values, ∃ q : ℚ, v = .fin q) :
    ∃ q : ℚ, minOf values = .fin q := by
  have hfold : ∀ (vs : List JsNumber) (b : ℚ), (∀ v ∈ vs, ∃ q : ℚ, v = .fin q) →
      ∃ q : ℚ, vs.foldl JsNumber.min (.fin b) = .fin q := by
    intro vs
    induction vs with
    | nil => exact fun b _ => ⟨b, rfl⟩
    | cons v vs ih =>
      intro b hvs
      obtain ⟨q, rfl⟩ := hvs v List.mem_cons_self
      rw [List.foldl_cons, JsNumber.min_fin]
      exact ih _ fun x hx => hvs x (List.mem_cons_of_mem _ hx)
  cases values with
  | nil => exact absurd rfl hne
  | cons v values =>
    obtain ⟨q, rfl⟩ := hfin v List.mem_cons_self
    exact hfold values q fun x hx => hfin x (List.mem_cons_of_mem _ hx)

theorem maxOf_fin {values : List JsNumber} (hne : values ≠ []) (hfin : ∀ v ∈ values, ∃ q : ℚ, v = .fin q) :
    ∃ q : ℚ, maxOf values = .fin q := by
  have hneg : ∀ v ∈ values.map JsNumber.neg, ∃ q : ℚ, v = .fin q := by
    intro v hv
    obtain ⟨u, hu, rfl⟩ := List.mem_map.mp hv
    obtain ⟨q, rfl⟩ := hfin u hu
    exact ⟨-q, rfl⟩
  obtain ⟨q, hq⟩ := minOf_fin (by simpa using hne) hneg
  rw [minOf_neg] at hq
  refine ⟨-q, ?_⟩
  rw [← JsNumber.neg_neg (maxOf values), hq]
  rfl

theorem structureStop_side (hpriced : ∀ c ∈ window, c.Priced) (hne : window ≠ []) {b : ℚ} (hb : 0 ≤ b)
    {direction : Direction} {stop : JsNumber}
    (h : structureStop window (.fin e) (.fin b) direction = some stop) :
    ∃ q : ℚ, stop = .fin q ∧ Losing direction e q := by
  cases direction with
  | long =>
    unfold structureStop lastPivotLowBelow at h
    dsimp only at h
    split at h
    · rename_i pivot hpivot
      cases h
      obtain ⟨q, hq, -⟩ := pivotLows_priced hpriced pivot
        (List.mem_reverse.mp (List.mem_of_find?_eq_some hpivot))
      have hbelow := List.find?_some hpivot
      rw [hq, JsNumber.lt_fin, decide_eq_true_eq] at hbelow
      refine ⟨q - b, by rw [hq, JsNumber.sub_fin], ?_⟩
      show q - b < e
      linarith
    · obtain ⟨q, hq⟩ : ∃ q : ℚ, minOf (window.map (·.low)) = .fin q := by
        refine minOf_fin (by simpa using hne) fun v hv => ?_
        obtain ⟨c, hc, rfl⟩ := List.mem_map.mp hv
        obtain ⟨-, -, l, -, -, -, hl, -⟩ := hpriced c hc
        exact ⟨l, hl⟩
      split at h
      · cases h
      rename_i hbeyond
      cases h
      rw [hq, JsNumber.le_fin, decide_eq_true_eq, not_le] at hbeyond
      refine ⟨q - b, by rw [hq, JsNumber.sub_fin], ?_⟩
      show q - b < e
      linarith
  | short =>
    unfold structureStop lastPivotHighAbove at h
    dsimp only at h
    split at h
    · rename_i pivot hpivot
      cases h
      obtain ⟨q, hq, -⟩ := pivotHighs_priced hpriced pivot
        (List.mem_reverse.mp (List.mem_of_find?_eq_some hpivot))
      have habove := List.find?_some hpivot
      rw [hq, JsNumber.lt_fin, decide_eq_true_eq] at habove
      refine ⟨q + b, by rw [hq]; rfl, ?_⟩
      show e < q + b
      linarith
    · obtain ⟨q, hq⟩ : ∃ q : ℚ, maxOf (window.map (·.high)) = .fin q := by
        refine maxOf_fin (by simpa using hne) fun v hv => ?_
        obtain ⟨c, hc, rfl⟩ := List.mem_map.mp hv
        obtain ⟨-, h, -, -, -, hh, -⟩ := hpriced c hc
        exact ⟨h, hh⟩
      split at h
      · cases h
      rename_i hbeyond
      cases h
      rw [hq, JsNumber.le_fin, decide_eq_true_eq, not_le] at hbeyond
      refine ⟨q + b, by rw [hq]; rfl, ?_⟩
      show e < q + b
      linarith

theorem beyondEntry_side {d : ℚ} (hd : 0 ≤ d) (direction : Direction) :
    ∃ q : ℚ, beyondEntry direction (.fin e) (.fin d) = .fin q ∧ NotWinning direction e q := by
  cases direction with
  | long => exact ⟨e - d, JsNumber.sub_fin e d, by show e - d ≤ e; linarith⟩
  | short => exact ⟨e + d, rfl, by show e ≤ e + d; linarith⟩

theorem candidateStop_side (hpriced : ∀ c ∈ window, c.Priced) (hne : window ≠ []) {b : ℚ} (hb : 0 ≤ b)
    {risk : VersionRisk} {direction : Direction} {stop : JsNumber}
    (h : candidateStop risk window (.fin e) (.fin b) direction = some stop) :
    ∃ q : ℚ, stop = .fin q ∧ NotWinning direction e q := by
  unfold candidateStop at h
  split at h
  · obtain ⟨q, hq, hlosing⟩ := structureStop_side hpriced hne hb h
    refine ⟨q, hq, ?_⟩
    cases direction
    · exact le_of_lt (show q < e from hlosing)
    · exact le_of_lt (show e < q from hlosing)
  · cases h
    exact beyondEntry_side hb direction
  · obtain ⟨atr, hatr, rfl⟩ := Option.map_eq_some_iff.mp h
    obtain ⟨a, rfl, ha⟩ := atrWilder_nonneg hpriced hatr
    exact beyondEntry_side (show 0 ≤ a + b by linarith) direction

theorem nearest_target {beyond : JsNumber → Bool} {closer : JsNumber → JsNumber → Bool} {P : JsNumber → Prop}
    {pivots : List Pivot} (hpivots : ∀ p ∈ pivots, beyond p.price → P p.price) {target : JsNumber}
    (h : pivots.foldl (fun best p =>
      if beyond p.price && best.all (fun b => closer p.price b) then some p.price else best) none =
        some target) : P target := by
  have hfold : ∀ best : Option JsNumber, (∀ t, best = some t → P t) → ∀ t,
      pivots.foldl (fun best p =>
        if beyond p.price && best.all (fun b => closer p.price b) then some p.price else best) best =
          some t → P t := by
    clear h
    induction pivots with
    | nil => exact fun _ hbest => hbest
    | cons p pivots ih =>
      intro best hbest
      refine ih (fun x hx => hpivots x (List.mem_cons_of_mem _ hx)) _ fun t ht => ?_
      dsimp only at ht
      split at ht
      · rename_i hbeyond
        cases ht
        exact hpivots p List.mem_cons_self (Bool.and_eq_true_iff.mp hbeyond).1
      · exact hbest t ht
  exact hfold none nofun target h

theorem structuralTarget_side (hpriced : ∀ c ∈ window, c.Priced) {direction : Direction} {target : JsNumber}
    (h : structuralTarget window direction (.fin e) = some target) :
    ∃ q : ℚ, target = .fin q ∧ 0 < q ∧ Winning direction e q := by
  cases direction with
  | long =>
    refine @nearest_target (JsNumber.lt (.fin e)) JsNumber.lt
      (fun t => ∃ q : ℚ, t = .fin q ∧ 0 < q ∧ e < q) _ (fun p hp hbeyond => ?_) _ h
    obtain ⟨q, hq, hq0⟩ := pivotHighs_priced hpriced p hp
    rw [hq, JsNumber.lt_fin, decide_eq_true_eq] at hbeyond
    exact ⟨q, hq, hq0, hbeyond⟩
  | short =>
    refine @nearest_target (JsNumber.lt · (.fin e)) (fun v b => JsNumber.lt b v)
      (fun t => ∃ q : ℚ, t = .fin q ∧ 0 < q ∧ q < e) _ (fun p hp hbeyond => ?_) _ h
    obtain ⟨q, hq, hq0⟩ := pivotLows_priced hpriced p hp
    rw [hq, JsNumber.lt_fin, decide_eq_true_eq] at hbeyond
    exact ⟨q, hq, hq0, hbeyond⟩

end Window

/-! ## The candidate -/

theorem bufferToPrice_nonneg {buffer e : ℚ} (hbuffer : 0 ≤ buffer) (he : 0 ≤ e) {unit : BufferUnit}
    {pipSize : Option JsNumber} {b : JsNumber}
    (h : bufferToPrice buffer unit (.fin e) pipSize = some b) : b.NonNeg := by
  cases unit with
  | pct =>
    cases h
    exact ⟨buffer / 100 * e, rfl, by positivity⟩
  | pips =>
    obtain ⟨pip, hpip, rfl⟩ := Option.map_eq_some_iff.mp h
    have hvalid := (Option.filter_eq_some_iff.mp hpip).2
    unfold validPipSize at hvalid
    cases pip with
    | fin p =>
      rw [Bool.and_eq_true] at hvalid
      exact ⟨buffer * p, rfl, mul_nonneg hbuffer (of_decide_eq_true hvalid.2).le⟩
    | _ => simp [JsNumber.isFinite] at hvalid

theorem window_ne_nil {candles : List CandleDto} (hlength : 2 ≤ candles.length) :
    sliceLast CANDIDATE_WINDOW candles ≠ [] := by
  intro hnil
  have hlen := congrArg List.length hnil
  rw [sliceLast, if_neg (by decide), List.rtake, List.length_drop, List.length_nil, CANDIDATE_WINDOW] at hlen
  omega

theorem deriveCandidate_ok {risk : VersionRisk} (hrisk : risk.Accepted) {candles : List CandleDto}
    (hpriced : ∀ c ∈ candles, c.Priced) {pipSize : Option JsNumber} {direction : Direction}
    {c : CandidateTrade} (h : deriveCandidate risk candles pipSize direction = some c) :
    ∃ (last : CandleDto) (buffer : JsNumber) (e s : ℚ), candles.getLast? = some last ∧ last.close = .fin e ∧
      bufferToPrice risk.stopLossBuffer risk.stopLossBufferUnit (.fin e) pipSize = some buffer ∧
      candidateStop risk (sliceLast CANDIDATE_WINDOW candles) (.fin e) buffer direction = some (.fin s) ∧
      0 < e ∧ 0 < s ∧ Losing direction e s ∧
      c = candidateAt risk (sliceLast CANDIDATE_WINDOW candles) (.fin e) (.fin s) (.fin |e - s|) direction := by
  unfold deriveCandidate at h
  split at h
  · cases h
  rename_i hlength
  simp only [Option.bind_eq_bind, Option.bind_eq_some_iff] at h
  obtain ⟨last, hlast, b, hb, stop, hstop, h⟩ := h
  have hmem := List.mem_of_getLast? hlast
  obtain ⟨o, hi, l, e, -, -, -, he, hl0, -, -, hle, -⟩ := hpriced last hmem
  rw [he] at hb hstop h
  have he0 : 0 < e := by linarith
  obtain ⟨b, rfl, hb0⟩ := bufferToPrice_nonneg hrisk.buffer_nonneg he0.le hb
  have hwindow := window_ne_nil (not_lt.mp hlength)
  have hwindow' : ∀ x ∈ sliceLast CANDIDATE_WINDOW candles, x.Priced :=
    fun x hx => hpriced x (List.mem_of_mem_drop hx)
  obtain ⟨s, rfl, hside⟩ := candidateStop_side hwindow' hwindow hb0 hstop
  rw [JsNumber.sub_fin, JsNumber.abs_fin] at h
  split at h
  · cases h
  rename_i hpositive
  split at h
  · rename_i hdistance
    cases h
    have hs0 : 0 < s := by
      by_contra hs
      refine hpositive ?_
      have hle : JsNumber.le (.fin s) 0 = true := (JsNumber.le_fin s 0).trans (decide_eq_true (not_lt.mp hs))
      rw [hle, Bool.or_true]
    have hes : e ≠ s := sub_ne_zero.mp (abs_pos.mp (of_decide_eq_true hdistance))
    refine ⟨last, .fin b, e, s, hlast, he, hb, hstop, he0, hs0, ?_, rfl⟩
    cases direction
    · exact lt_of_le_of_ne hside hes.symm
    · exact lt_of_le_of_ne hside hes
  · cases h

/-! ## The targets -/

/-- The leg is absent, or a positive price on the winning side of the entry. -/
def TargetLeg (direction : Direction) (entry : ℚ) (leg : Option JsNumber) : Prop :=
  ∀ price, leg = some price → ∃ q : ℚ, price = .fin q ∧ 0 < q ∧ Winning direction entry q

/-- Of two present legs the second is farther from the entry. -/
def Receding (entry : ℚ) (near far : Option JsNumber) : Prop :=
  ∀ p q : ℚ, near = some (.fin p) → far = some (.fin q) → |p - entry| < |q - entry|

theorem TargetLeg.none (direction : Direction) (entry : ℚ) : TargetLeg direction entry none := nofun

theorem rrTarget_fin (direction : Direction) (e d r : ℚ) :
    rrTarget direction (.fin e) (.fin d) r = .fin (match direction with
      | .long => e + d * r
      | .short => e - d * r) := by
  cases direction with
  | long => rfl
  | short => exact JsNumber.sub_fin e (d * r)

theorem rrTarget_side {e d r : ℚ} (hd : 0 < d) (hr : 0 < r) (direction : Direction) :
    TargetLeg direction e ((some (rrTarget direction (.fin e) (.fin d) r)).filter (JsNumber.lt 0)) := by
  intro price hprice
  obtain ⟨heq, hpositive⟩ := Option.filter_eq_some_iff.mp hprice
  cases heq
  rw [rrTarget_fin] at hpositive ⊢
  have hstep := mul_pos hd hr
  refine ⟨_, rfl, of_decide_eq_true hpositive, ?_⟩
  cases direction
  · show e < e + d * r
    linarith
  · show e - d * r < e
    linarith

theorem rrTarget_distance {e d r p : ℚ} (hd : 0 < d) (hr : 0 < r) {direction : Direction}
    (h : (some (rrTarget direction (.fin e) (.fin d) r)).filter (JsNumber.lt 0) = some (.fin p)) :
    |p - e| = d * r := by
  obtain ⟨heq, -⟩ := Option.filter_eq_some_iff.mp h
  rw [rrTarget_fin, Option.some.injEq, JsNumber.fin.injEq] at heq
  rw [← heq]
  have hstep := mul_pos hd hr
  cases direction
  · show |e + d * r - e| = d * r
    rw [add_sub_cancel_left, abs_of_pos hstep]
  · show |e - d * r - e| = d * r
    rw [sub_sub_cancel_left, abs_neg, abs_of_pos hstep]

theorem rrTarget_receding {e d near far : ℚ} (hd : 0 < d) (hnear : 0 < near) (hlt : near < far)
    (direction : Direction) :
    Receding e ((some (rrTarget direction (.fin e) (.fin d) near)).filter (JsNumber.lt 0))
      ((some (rrTarget direction (.fin e) (.fin d) far)).filter (JsNumber.lt 0)) := by
  intro p q hp hq
  rw [rrTarget_distance hd hnear hp, rrTarget_distance hd (hnear.trans hlt) hq]
  exact (mul_lt_mul_iff_right₀ hd).mpr hlt

theorem candidateAt_targets {risk : VersionRisk} (hrisk : risk.Accepted) {window : List CandleDto}
    (hpriced : ∀ c ∈ window, c.Priced) {e d : ℚ} (hd : 0 < d) {stop : JsNumber} {direction : Direction}
    {c : CandidateTrade} (h : c = candidateAt risk window (.fin e) stop (.fin d) direction) :
    (TargetLeg direction e c.tp1Price ∧ TargetLeg direction e c.tp2Price ∧ TargetLeg direction e c.tp3Price) ∧
      (risk.takeProfitMethod = .rr →
        Receding e c.tp1Price c.tp2Price ∧ Receding e c.tp2Price c.tp3Price ∧ Receding e c.tp1Price c.tp3Price) := by
  subst h
  unfold candidateAt
  cases hmethod : risk.takeProfitMethod with
  | rr =>
    obtain ⟨h12, h23⟩ := hrisk.increasing hmethod
    refine ⟨⟨rrTarget_side hd hrisk.tp1_pos direction, rrTarget_side hd hrisk.tp2_pos direction,
      rrTarget_side hd hrisk.tp3_pos direction⟩, fun _ => ⟨?_, ?_, ?_⟩⟩
    · exact rrTarget_receding hd hrisk.tp1_pos h12 direction
    · exact rrTarget_receding hd hrisk.tp2_pos h23 direction
    · exact rrTarget_receding hd hrisk.tp1_pos (h12.trans h23) direction
  | «structure» =>
    refine ⟨⟨?_, TargetLeg.none _ _, TargetLeg.none _ _⟩, nofun⟩
    intro price hprice
    exact structuralTarget_side hpriced (Option.filter_eq_some_iff.mp hprice).1
  | manual => exact ⟨⟨TargetLeg.none _ _, TargetLeg.none _ _, TargetLeg.none _ _⟩, nofun⟩

/-! ## The persisted levels -/

theorem positiveLeg_of_target {e : ℚ} {direction : Direction} {leg : Option JsNumber}
    (h : TargetLeg direction e leg) : leg.bind positiveLeg = leg := by
  cases leg with
  | none => rfl
  | some price =>
    obtain ⟨q, rfl, hq, -⟩ := h price rfl
    exact if_pos (decide_eq_true hq)

theorem mirrorTarget_of_target {e : ℚ} {leg : Option JsNumber} (h : TargetLeg .short e leg) :
    leg.bind (mirrorTarget (.fin e)) = leg := by
  cases leg with
  | none => rfl
  | some price =>
    obtain ⟨q, rfl, hq, hside⟩ := h price rfl
    have hlt : JsNumber.lt (.fin q) (.fin e) = true := decide_eq_true hside
    have hpos : JsNumber.lt 0 (.fin q) = true := decide_eq_true hq
    show mirrorTarget (.fin e) (.fin q) = some (.fin q)
    unfold mirrorTarget
    rw [if_pos hlt]
    dsimp only
    rw [hpos, hlt, if_pos (show (true && true) = true from rfl)]

theorem detectionLevels_kept {e s : ℚ} (he : 0 < e) (hs : 0 < s) {direction : Direction}
    (hside : Losing direction e s) {tp1 tp2 tp3 : Option JsNumber} (h1 : TargetLeg direction e tp1)
    (h2 : TargetLeg direction e tp2) (h3 : TargetLeg direction e tp3) :
    detectionLevels (some ⟨.fin e, .fin s, tp1, tp2, tp3⟩) direction =
      some ⟨.fin e, some (.fin s), tp1, tp2, tp3⟩ := by
  have hentry : JsNumber.lt 0 (.fin e) = true := decide_eq_true he
  unfold detectionLevels
  dsimp only
  rw [hentry, if_neg (by decide)]
  cases direction with
  | long =>
    dsimp only
    rw [positiveLeg_of_target h1, positiveLeg_of_target h2, positiveLeg_of_target h3, positiveLeg,
      if_pos (show JsNumber.lt 0 (.fin s) = true from decide_eq_true hs)]
  | short =>
    have hstop : JsNumber.lt (.fin e) (.fin s) = true := decide_eq_true hside
    dsimp only
    rw [mirrorTarget_of_target h1, mirrorTarget_of_target h2, mirrorTarget_of_target h3, if_pos hstop,
      if_pos hstop]

/-- The same entry, each leg kept or replaced by its mirror image around the entry. -/
structure LegsMirrored (levels mirrored : CandidateLevels) : Prop where
  entry : mirrored.entryPrice = levels.entryPrice
  stop : mirrored.stopLossPrice = levels.stopLossPrice ∨
    mirrored.stopLossPrice = mirrorPrice levels.entryPrice levels.stopLossPrice
  tp1 : mirrored.tp1Price = levels.tp1Price ∨
    mirrored.tp1Price = levels.tp1Price.map (mirrorPrice levels.entryPrice)
  tp2 : mirrored.tp2Price = levels.tp2Price ∨
    mirrored.tp2Price = levels.tp2Price.map (mirrorPrice levels.entryPrice)
  tp3 : mirrored.tp3Price = levels.tp3Price ∨
    mirrored.tp3Price = levels.tp3Price.map (mirrorPrice levels.entryPrice)

theorem mirrorPrice_fin (e q : ℚ) : mirrorPrice (.fin e) (.fin q) = .fin (2 * e - q) :=
  JsNumber.sub_fin (2 * e) q

theorem mirrorTarget_mirror (e : ℚ) (tp : JsNumber) :
    mirrorTarget (.fin e) (mirrorPrice (.fin e) tp) = mirrorTarget (.fin e) tp := by
  cases tp with
  | fin q =>
    -- of the two images the one below the entry is kept
    have horiented : (if 2 * e - q < e then JsNumber.fin (2 * e - q) else .fin q) =
        if q < e then .fin q else .fin (2 * e - q) := by
      rcases lt_trichotomy q e with hq | rfl | hq
      · rw [if_neg (by linarith), if_pos hq]
      · rw [two_mul, add_sub_cancel_right]
      · rw [if_pos (by linarith), if_neg hq.not_gt]
    rw [mirrorPrice_fin]
    unfold mirrorTarget
    simp only [JsNumber.lt_fin, decide_eq_true_eq, mirrorPrice_fin, sub_sub_cancel]
    rw [horiented]
  | _ => rfl

theorem mirrorStop_mirror (e : ℚ) (stop : JsNumber) :
    (if JsNumber.lt (.fin e) (mirrorPrice (.fin e) stop) then mirrorPrice (.fin e) stop
      else mirrorPrice (.fin e) (mirrorPrice (.fin e) stop)) =
    if JsNumber.lt (.fin e) stop then stop else mirrorPrice (.fin e) stop := by
  cases stop with
  | fin q =>
    simp only [JsNumber.lt_fin, decide_eq_true_eq, mirrorPrice_fin, sub_sub_cancel]
    rcases lt_trichotomy q e with hq | rfl | hq
    · rw [if_pos (by linarith), if_neg hq.not_gt]
    · rw [two_mul, add_sub_cancel_right]
    · rw [if_neg (by linarith), if_pos hq]
  | _ => rfl

theorem detectionLevels_mirror {levels mirrored : CandidateLevels} {e : ℚ} (he : levels.entryPrice = .fin e)
    (h : LegsMirrored levels mirrored) :
    detectionLevels (some mirrored) .short = detectionLevels (some levels) .short := by
  obtain ⟨hentry, hstop, h1, h2, h3⟩ := h
  rw [he] at hentry hstop h1 h2 h3
  have htarget : ∀ {a b : Option JsNumber}, b = a ∨ b = a.map (mirrorPrice (.fin e)) →
      b.bind (mirrorTarget (.fin e)) = a.bind (mirrorTarget (.fin e)) := by
    rintro a b (rfl | rfl)
    · rfl
    · cases a with
      | none => rfl
      | some tp => exact mirrorTarget_mirror e tp
  have hside : (if JsNumber.lt (.fin e) mirrored.stopLossPrice then mirrored.stopLossPrice
        else mirrorPrice (.fin e) mirrored.stopLossPrice) =
      if JsNumber.lt (.fin e) levels.stopLossPrice then levels.stopLossPrice
        else mirrorPrice (.fin e) levels.stopLossPrice := by
    rcases hstop with hstop | hstop
    · rw [hstop]
    · rw [hstop]
      exact mirrorStop_mirror e _
  unfold detectionLevels
  dsimp only
  rw [hentry, he, htarget h1, htarget h2, htarget h3, hside]

/-- Two equal candles around 10. -/
def flatCandles : List CandleDto :=
  [⟨0, .fin 10, .fin 11, .fin 9, .fin 10, none⟩, ⟨60000, .fin 10, .fin 11, .fin 9, .fin 10, none⟩]

end VeltrixEye
