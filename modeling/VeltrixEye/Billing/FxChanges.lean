import VeltrixEye.Billing.FxSources
import VeltrixEye.Lib.Series

/-!
# Changes of an observed rate

A report compares the newest observation with the one before it by their scaled integers; the scales of the
two may differ.

* `valueOf_subtractScaled` — the printed difference is exact.
-/

namespace VeltrixEye.Billing.FxSources

/-! ## Figures -/

theorem matchRate_ok {text whole frac : List Char} (h : matchRate text = some (whole, frac)) :
    matchUnsigned false text = some ⟨false, whole, frac⟩ ∧ ∃ c rest, text = c :: rest ∧ c.isDigit = true := by
  unfold matchRate at h
  dsimp only at h
  split at h
  · cases h
  rename_i hwhole
  rw [not_or] at hwhole
  have hfirst : ∃ c rest, text = c :: rest ∧ c.isDigit = true := by
    cases text with
    | nil => exact absurd rfl hwhole.1
    | cons c rest =>
      refine ⟨c, rest, rfl, ?_⟩
      by_contra hc
      exact hwhole.1 (List.takeWhile_cons_of_neg hc)
  refine ⟨?_, hfirst⟩
  unfold matchUnsigned
  dsimp only
  cases hdrop : text.dropWhile Char.isDigit with
  | nil =>
    simp only [hdrop] at h ⊢
    cases h
    rw [if_neg hwhole.1]
  | cons c rest =>
    simp only [hdrop] at h ⊢
    split at h
    · rename_i hfrac
      cases h
      simp only [hfrac.1, hfrac.2.2, hwhole.1, ne_eq, not_true_eq_false, Bool.not_true, Bool.false_eq_true,
        or_self, if_false]
    · cases h

/-- A figure at the scale it was parsed to. -/
def ScaledRate.value (r : ScaledRate) : ℚ := r.scaled / 10 ^ r.scale

theorem padded_value (whole frac : List Char) {scale : ℕ} (h : frac.length ≤ scale) :
    ((digitsValue (whole ++ frac ++ List.replicate (scale - frac.length) '0') : ℕ) / 10 ^ scale : ℚ) =
      digitsValue whole + digitsValue frac / 10 ^ frac.length := by
  have hscale : (10 : ℚ) ^ scale = 10 ^ (scale - frac.length) * 10 ^ frac.length := by
    rw [← pow_add, Nat.sub_add_cancel h]
  rw [Dec.digitsValue_append, Dec.digitsValue_append, Dec.digitsValue_zeros, List.length_replicate, hscale]
  push_cast
  field_simp
  ring

theorem matchDecimal_of_matchRate {rate : String} {whole frac : List Char}
    (h : matchRate (jsTrim rate).toList = some (whole, frac)) :
    matchDecimal rate = some ⟨false, whole, frac⟩ := by
  obtain ⟨hunsigned, c, rest, htext, hc⟩ := matchRate_ok h
  unfold matchDecimal
  rw [htext] at hunsigned ⊢
  split
  · rename_i heq
    rw [(List.cons.inj heq).1] at hc
    exact absurd hc (by decide)
  · rename_i heq
    rw [(List.cons.inj heq).1] at hc
    exact absurd hc (by decide)
  · exact hunsigned

theorem parseFxRateDecimal_value {rate : String} {r : ScaledRate} (h : parseFxRateDecimal rate = some r) :
    valueOf rate = some r.value ∧ 0 < r.scaled ∧ 0 < r.scale := by
  unfold parseFxRateDecimal at h
  split at h
  · cases h
  rename_i whole frac hmatch
  split at h
  · cases h
  dsimp only at h
  split at h
  · cases h
  rename_i hbounds
  obtain rfl := Option.some.inj h
  constructor
  · rw [valueOf, matchDecimal_of_matchRate hmatch, Option.map_some, DecimalText.value, if_neg Bool.false_ne_true,
      one_mul, ScaledRate.value, padded_value whole frac (le_max_left _ _)]
  · exact ⟨Nat.pos_of_ne_zero fun hzero => hbounds (Or.inl hzero),
      lt_of_lt_of_le (by decide) (le_max_right frac.length minFxScale)⟩

/-! ## Observations -/

variable {runtime : FxSourceRuntime} {policy : FxSourceObservationPolicy}

/-- The published figures of an observation, as rational numbers. -/
structure PublishedFigures where
  buying : ℚ
  selling : ℚ
  mid : ℚ

def FxSourceObservation.figures (o : FxSourceObservation) : PublishedFigures where
  buying := o.buyingScaled / 10 ^ o.rateScale
  selling := o.sellingScaled / 10 ^ o.rateScale
  mid := o.midRateScaled / 10 ^ o.rateScale

/-- The scaled figures are positive and are the numbers the published texts denote. -/
structure FiguresExact (o : FxSourceObservation) : Prop where
  buying : valueOf o.buyingDecimal = some o.figures.buying
  selling : valueOf o.sellingDecimal = some o.figures.selling
  mid : valueOf o.midRateDecimal = some o.figures.mid
  mid_pos : 0 < o.midRateScaled
  scale_pos : 0 < o.rateScale

/-- What some row is read to. -/
def Observed (o : FxSourceObservation) : Prop :=
  ∃ runtime policy retrievedBy input, validateFxSourceRow runtime policy retrievedBy input = .ok o

theorem rescale_value {r : ScaledRate} {scale : ℕ} (h : r.scale ≤ scale) :
    (r.rescale scale / 10 ^ scale : ℚ) = r.value := by
  have hscale : (10 : ℚ) ^ scale = 10 ^ (scale - r.scale) * 10 ^ r.scale := by
    rw [← pow_add, Nat.sub_add_cancel h]
  rw [ScaledRate.rescale, ScaledRate.value, hscale]
  push_cast
  field_simp

theorem figure_value {text : String} {r : ScaledRate} (h : figure policy text = some r) :
    valueOf (jsTrim text) = some r.value ∧ 0 < r.scaled ∧ 0 < r.scale :=
  parseFxRateDecimal_value (Option.filter_eq_some_iff.mp h).1

theorem readFigures_ok {row : FxSourceRowTexts} {figures : Figures} (h : readFigures policy row = some figures) :
    ∃ buying selling mid, figure policy row.buyingText = some buying ∧
      figure policy row.sellingText = some selling ∧ figure policy row.midText = some mid ∧
      figures = commonScale buying selling mid := by
  unfold readFigures at h
  split at h
  · rename_i buying selling mid hbuying hselling hmid
    exact ⟨buying, selling, mid, hbuying, hselling, hmid, (Option.some.inj h).symm⟩
  · cases h

theorem validateFxSourceRow_ok {retrievedBy : String} {input : Option FxSourceRetrievalInput}
    {o : FxSourceObservation} (h : validateFxSourceRow runtime policy retrievedBy input = .ok o) :
    ∃ input row publishedOn retrievedAt figures, readFigures policy row = some figures ∧
      o = observationOf runtime policy retrievedBy input row publishedOn retrievedAt figures := by
  cases input with
  | none => cases h
  | some input =>
    unfold validateFxSourceRow at h
    dsimp only at h
    split at h
    · cases h
    rename_i row hrow
    split at h
    · rename_i publishedOn retrievedAt figures hdate hinstant hfigures
      split at h
      · exact ⟨input, row, publishedOn, retrievedAt, figures, hfigures, (Except.ok.inj h).symm⟩
      · cases h
    · cases h

theorem validateFxSourceRow_figures {o : FxSourceObservation} (h : Observed o) : FiguresExact o := by
  obtain ⟨runtime, policy, retrievedBy, input, h⟩ := h
  obtain ⟨input, row, publishedOn, retrievedAt, figures, hfigures, rfl⟩ := validateFxSourceRow_ok h
  obtain ⟨buying, selling, mid, hbuying, hselling, hmid, rfl⟩ := readFigures_ok hfigures
  have hb : buying.scale ≤ (commonScale buying selling mid).scale := (le_max_left _ _).trans (le_max_left _ _)
  have hs : selling.scale ≤ (commonScale buying selling mid).scale := (le_max_right _ _).trans (le_max_left _ _)
  have hm : mid.scale ≤ (commonScale buying selling mid).scale := le_max_right _ _
  exact ⟨(figure_value hbuying).1.trans (congrArg some (rescale_value hb).symm),
    (figure_value hselling).1.trans (congrArg some (rescale_value hs).symm),
    (figure_value hmid).1.trans (congrArg some (rescale_value hm).symm),
    Nat.mul_pos (figure_value hmid).2.1 (by positivity), lt_of_lt_of_le (figure_value hmid).2.2 hm⟩

/-! ## The printed difference -/

theorem digitsValue_pad (value width : ℕ) : digitsValue (pad value width) = value := by
  rw [pad, Dec.digitsValue_append, Dec.digitsValue_zeros, Dec.digitsValue_toDigits, Nat.mul_zero, Nat.zero_add]

theorem isDigit_pad {value width : ℕ} {c : Char} (h : c ∈ pad value width) : c.isDigit = true := by
  rcases List.mem_append.mp h with h | h
  · rw [List.eq_of_mem_replicate h]
    rfl
  · exact Dec.isDigit_toDigits h

theorem length_pad (value width : ℕ) : width ≤ (pad value width).length := by
  rw [pad, List.length_append, List.length_replicate]
  omega

theorem valueOf_subtractScaled (a b : ℤ) {scale : ℕ} (h : 0 < scale) :
    valueOf (subtractScaled a b scale) = some ((a - b : ℚ) / 10 ^ scale) := by
  set digits := pad (a - b).natAbs (scale + 1) with hdigits
  have hlength : scale + 1 ≤ digits.length := length_pad _ _
  have hwhole : digits.take (digits.length - scale) ≠ [] := by
    intro hnil
    have := congrArg List.length hnil
    rw [List.length_take, List.length_nil] at this
    omega
  have hfrac : (digits.drop (digits.length - scale)).length = scale := by
    rw [List.length_drop]
    omega
  have hvalue : 10 ^ scale * digitsValue (digits.take (digits.length - scale)) +
      digitsValue (digits.drop (digits.length - scale)) = (a - b).natAbs := by
    have happend := Dec.digitsValue_append (digits.take (digits.length - scale))
      (digits.drop (digits.length - scale))
    rw [List.take_append_drop, hfrac, hdigits, digitsValue_pad] at happend
    exact happend.symm
  have htext : matchDecimal (subtractScaled a b scale) = some ⟨decide (a - b < 0),
      digits.take (digits.length - scale), digits.drop (digits.length - scale)⟩ := by
    rw [subtractScaled]
    dsimp only
    rw [if_neg h.ne']
    exact Dec.matchDecimal_printed hwhole (fun c hc => isDigit_pad (List.mem_of_mem_take hc))
      fun c hc => isDigit_pad (List.mem_of_mem_drop hc)
  have hcast : (digitsValue (digits.take (digits.length - scale)) : ℚ) +
      digitsValue (digits.drop (digits.length - scale)) / 10 ^ scale = (a - b).natAbs / 10 ^ scale := by
    rw [← hvalue]
    push_cast
    field_simp
  rw [valueOf, htext, Option.map_some, DecimalText.value, hfrac, hcast]
  have habs : ((a - b).natAbs : ℚ) = |(a - b : ℚ)| := by
    rw [← Int.cast_sub, ← Int.cast_abs, Nat.cast_natAbs]
  refine congrArg some ?_
  by_cases hneg : a - b < 0
  · have hneg' : (a - b : ℚ) < 0 := by exact_mod_cast hneg
    rw [if_pos (decide_eq_true hneg), habs, abs_of_neg hneg']
    ring
  · have hnonneg : (0 : ℚ) ≤ a - b := by exact_mod_cast not_lt.mp hneg
    rw [if_neg (by simpa using hneg), habs, abs_of_nonneg hnonneg, one_mul]

/-! ## The newest two -/

/-- What observations are ordered by. -/
def published (o : FxSourceObservation) : String ×ₗ ℤ := toLex (o.publishedOn, o.retrievedAt)

theorem comesFirst_iff {left right : FxSourceObservation} :
    comesFirst left right ↔ published right ≤ published left := by
  unfold comesFirst published
  rw [Prod.Lex.toLex_le_toLex]
  exact or_congr_right (and_congr_left fun _ => eq_comm)

instance : Std.Total comesFirst where
  total left right := by
    rw [comesFirst_iff, comesFirst_iff]
    exact le_total _ _

instance : IsTrans FxSourceObservation comesFirst where
  trans _ _ _ h h' := comesFirst_iff.mpr ((comesFirst_iff.mp h').trans (comesFirst_iff.mp h))

theorem newestFirst_perm (observations : List FxSourceObservation) :
    (newestFirst observations).Perm observations := List.perm_insertionSort _ _

theorem newestFirst_sorted (observations : List FxSourceObservation) :
    (newestFirst observations).Pairwise fun left right => published right ≤ published left :=
  (List.pairwise_insertionSort comesFirst observations).imp comesFirst_iff.mp

theorem newestFirst_congr {observations observations' : List FxSourceObservation}
    (hdistinct : (observations.map published).Nodup) (h : observations'.Perm observations) :
    newestFirst observations' = newestFirst observations := by
  have hstrict : ∀ l : List FxSourceObservation, (l.map published).Nodup →
      (newestFirst l).Pairwise fun left right => OrderDual.toDual (published left) <
        OrderDual.toDual (published right) := by
    intro l hl
    have hnodup := ((newestFirst_perm l).map published).nodup_iff.mpr hl
    exact ((newestFirst_sorted l).and (List.pairwise_map.mp hnodup)).imp fun hlr =>
      lt_of_le_of_ne hlr.1 fun heq => hlr.2 (OrderDual.toDual.injective heq)
  exact Series.eq_of_perm (hstrict _ ((h.map published).nodup_iff.mpr hdistinct)) (hstrict _ hdistinct)
    ((newestFirst_perm _).trans (h.trans (newestFirst_perm _).symm))

/-! ## Changes -/

/-- The scales of two observations differ and all their scaled integers agree, or all their figures do. -/
def ScalesMislead (newest previous : FxSourceObservation) : Prop :=
  newest.rateScale ≠ previous.rateScale ∧
    ((newest.midRateScaled = previous.midRateScaled ∧ newest.buyingScaled = previous.buyingScaled ∧
      newest.sellingScaled = previous.sellingScaled) ∨ newest.figures = previous.figures)

theorem figures_eq_iff_of_scale {o p : FxSourceObservation} (h : o.rateScale = p.rateScale) :
    o.figures = p.figures ↔ o.midRateScaled = p.midRateScaled ∧ o.buyingScaled = p.buyingScaled ∧
      o.sellingScaled = p.sellingScaled := by
  have hten : (10 : ℚ) ^ p.rateScale ≠ 0 := by positivity
  unfold FxSourceObservation.figures
  rw [PublishedFigures.mk.injEq, h, div_left_inj' hten, div_left_inj' hten, div_left_inj' hten, Nat.cast_inj,
    Nat.cast_inj, Nat.cast_inj]
  tauto

theorem scale_eq_of_value {n a b : ℕ} (hn : 0 < n) (h : (n / 10 ^ a : ℚ) = n / 10 ^ b) : a = b := by
  have hpos : (n : ℚ) ≠ 0 := by exact_mod_cast hn.ne'
  have hpow : (10 : ℚ) ^ a = 10 ^ b := by
    rw [div_eq_div_iff (by positivity) (by positivity)] at h
    exact (mul_left_cancel₀ hpos h).symm
  exact Nat.pow_right_injective (show 2 ≤ 10 by decide) (by exact_mod_cast hpow)

theorem scaled_change_iff {newest previous : FxSourceObservation} (hpos : 0 < newest.midRateScaled) :
    ((¬(newest.midRateScaled = previous.midRateScaled ∧ newest.buyingScaled = previous.buyingScaled ∧
      newest.sellingScaled = previous.sellingScaled)) ↔ newest.figures ≠ previous.figures) ↔
      ¬ScalesMislead newest previous := by
  unfold ScalesMislead
  by_cases hscale : newest.rateScale = previous.rateScale
  · rw [Ne, figures_eq_iff_of_scale hscale]
    exact iff_of_true Iff.rfl fun h => h.1 hscale
  · have hnot : (newest.midRateScaled = previous.midRateScaled ∧ newest.buyingScaled = previous.buyingScaled ∧
        newest.sellingScaled = previous.sellingScaled) → newest.figures ≠ previous.figures := by
      rintro ⟨hmid, -, -⟩ hfigures
      have hvalue : (newest.midRateScaled / 10 ^ newest.rateScale : ℚ) =
          previous.midRateScaled / 10 ^ previous.rateScale := congrArg PublishedFigures.mid hfigures
      rw [← hmid] at hvalue
      exact hscale (scale_eq_of_value hpos hvalue)
    tauto

variable {observations : List FxSourceObservation}

theorem report_of_ordered {newest previous : FxSourceObservation} {rest : List FxSourceObservation}
    (h : newestFirst observations = newest :: previous :: rest) (params : AnalyzeParams) :
    ((analyzeFxSourceObservations params observations).changed = some true ↔
      ¬(newest.midRateScaled = previous.midRateScaled ∧ newest.buyingScaled = previous.buyingScaled ∧
        newest.sellingScaled = previous.sellingScaled)) ∧
    (analyzeFxSourceObservations params observations).midChangeDecimal =
      if newest.rateScale = previous.rateScale then
        some (subtractScaled newest.midRateScaled previous.midRateScaled newest.rateScale)
      else none := by
  unfold analyzeFxSourceObservations
  rw [h]
  refine ⟨?_, rfl⟩
  simp only [List.getElem?_cons_zero, List.getElem?_cons_succ, Option.some_inj, Bool.or_eq_true,
    decide_eq_true_eq, or_assoc, not_and_or]

/-- **What a report says of published figures.**  The newest two of at least two observations are compared by
    their integers: `changed` tells whether their figures differ exactly when their scales do not mislead.
    The figures themselves and a printed difference are exact, and the order of the list does not matter. -/
theorem fx_change_iff (hobserved : ∀ o ∈ observations, Observed o) (hlength : 2 ≤ observations.length)
    (params : AnalyzeParams) :
    ∃ newest previous rest, observations.Perm (newest :: previous :: rest) ∧
      (∀ o ∈ previous :: rest, published o ≤ published newest) ∧ (∀ o ∈ rest, published o ≤ published previous) ∧
      (((analyzeFxSourceObservations params observations).changed = some true ↔
        newest.figures ≠ previous.figures) ↔ ¬ScalesMislead newest previous) ∧
      (∀ o ∈ observations, FiguresExact o) ∧
      (∀ text, (analyzeFxSourceObservations params observations).midChangeDecimal = some text →
        valueOf text = some (newest.figures.mid - previous.figures.mid)) ∧
      ∀ observations' : List FxSourceObservation, observations'.Perm observations →
        (observations.map published).Nodup →
          analyzeFxSourceObservations params observations' = analyzeFxSourceObservations params observations := by
  have hsorted := newestFirst_sorted observations
  have hperm := newestFirst_perm observations
  obtain ⟨newest, previous, rest, hordered⟩ : ∃ newest previous rest,
      newestFirst observations = newest :: previous :: rest := by
    have hlength' := hperm.length_eq
    match h : newestFirst observations with
    | [] => rw [h, List.length_nil] at hlength'; omega
    | [_] => rw [h, List.length_singleton] at hlength'; omega
    | newest :: previous :: rest => exact ⟨newest, previous, rest, rfl⟩
  rw [hordered] at hsorted hperm
  have hnewest := validateFxSourceRow_figures (hobserved newest (hperm.subset List.mem_cons_self))
  refine ⟨newest, previous, rest, hperm.symm, (List.pairwise_cons.mp hsorted).1,
    (List.pairwise_cons.mp (List.pairwise_cons.mp hsorted).2).1, ?_,
    fun o ho => validateFxSourceRow_figures (hobserved o ho), ?_, ?_⟩
  · rw [(report_of_ordered hordered params).1]
    exact scaled_change_iff hnewest.mid_pos
  · intro text htext
    rw [(report_of_ordered hordered params).2] at htext
    split at htext
    · rename_i hscale
      obtain rfl := Option.some.inj htext
      rw [valueOf_subtractScaled _ _ hnewest.scale_pos]
      unfold FxSourceObservation.figures
      rw [← hscale, ← sub_div]
      rfl
    · cases htext
  · intro observations' hperm' hdistinct
    unfold analyzeFxSourceObservations
    rw [newestFirst_congr hdistinct hperm', hperm'.length_eq]

/-! ## Three days -/

/-- The digests of the three identities below; no other digest is asked for. -/
def dailyDigest (text : String) : String :=
  if text = "bank_of_ghana|USD|GHS|2026-09-17|124|126|125|1" then
    "12f2337c57b1c7318182ebea1dc39603410309cfb4c8368f126cc346b6d03f39"
  else if text = "bank_of_ghana|USD|GHS|2026-09-18|1240|1260|1250|2" then
    "80c7aea430b7d959b2a8b40547ba94b5674d1b5a48d5577cb870838206486b0c"
  else if text = "bank_of_ghana|USD|GHS|2026-09-19|124|126|125|2" then
    "89c5167b00a0357ae3450580244ecc1bec7e547419729b382ed4e2adf6058823"
  else ""

def dailyRuntime : FxSourceRuntime := ⟨dailyDigest, String.map Char.toUpper, String.map Char.toLower⟩

/-- The row of a day in September 2026, retrieved at noon UTC. -/
def dailyRow (day : ℕ) (buyingText sellingText midText : String) : FxSourceRetrievalInput where
  sourceId := "bank_of_ghana"
  sourceUrl := FX_SOURCE_BANK_OF_GHANA_URL
  retrievedAt := some (1789560000000 + 86400000 * ((day : ℤ) - 16))
  bodyDigest := String.ofList (List.replicate 64 'a')
  rowDigest := String.ofList (List.replicate 64 'b')
  row := some ⟨toString day ++ " Sep 2026", "US Dollar", "USDGHS", buyingText, sellingText, midText⟩

/-- The observation of that row. -/
def dailyObservation (day : ℕ) (buyingText sellingText midText key : String)
    (buying selling mid scale : ℕ) : FxSourceObservation where
  sourceId := "bank_of_ghana"
  observationKey := dailyDigest key
  baseCurrency := "USD"
  quoteCurrency := "GHS"
  publishedOn := "2026-09-" ++ toString day
  buyingScaled := buying
  sellingScaled := selling
  midRateScaled := mid
  rateScale := scale
  buyingDecimal := buyingText
  sellingDecimal := sellingText
  midRateDecimal := midText
  bodyDigest := String.ofList (List.replicate 64 'a')
  rowDigest := String.ofList (List.replicate 64 'b')
  sourceUrl := FX_SOURCE_BANK_OF_GHANA_URL
  retrievedAt := 1789560000000 + 86400000 * ((day : ℤ) - 16)
  retrievedBy := "scheduler"

/-- 12.4, 12.6 and 12.5. -/
def oneDecimal : FxSourceObservation :=
  dailyObservation 17 "12.4" "12.6" "12.5" "bank_of_ghana|USD|GHS|2026-09-17|124|126|125|1" 124 126 125 1

/-- The same figures with a zero more. -/
def twoDecimals : FxSourceObservation :=
  dailyObservation 18 "12.40" "12.60" "12.50" "bank_of_ghana|USD|GHS|2026-09-18|1240|1260|1250|2"
    1240 1260 1250 2

/-- A tenth of the first figures, with their integers. -/
def tenth : FxSourceObservation :=
  dailyObservation 19 "1.24" "1.26" "1.25" "bank_of_ghana|USD|GHS|2026-09-19|124|126|125|2" 124 126 125 2

def dailyParams : AnalyzeParams :=
  ⟨"bank_of_ghana", some 1789905600000, FX_SOURCE_OBSERVATION_POLICY, Prices.BILLING_FX_POLICY, none⟩

/-- The source, the digests and the label of a daily row are accepted. -/
theorem daily_retrieval (day : ℕ) (buying selling mid : String) :
    retrievalIssues FX_SOURCE_OBSERVATION_POLICY "scheduler" (dailyRow day buying selling mid) = [] := by
  have hbody : Prices.isSha256Hex (String.ofList (List.replicate 64 'a')) = true := by
    rw [Prices.isSha256Hex, String.toList_ofList]
    decide +kernel
  have hrow : Prices.isSha256Hex (String.ofList (List.replicate 64 'b')) = true := by
    rw [Prices.isSha256Hex, String.toList_ofList]
    decide +kernel
  have hlabel : labelIssues FX_SOURCE_OBSERVATION_POLICY "scheduler" = [] := by decide +kernel
  simp only [retrievalIssues, sourceIssues, evidenceIssues, dailyRow, FX_SOURCE_IDS, List.mem_singleton,
    hbody, hrow, hlabel, reduceCtorEq, not_true_eq_false, ne_eq, if_true, if_false, List.append_nil]

theorem daily_validate :
    let validate day buying selling mid := validateFxSourceRow dailyRuntime FX_SOURCE_OBSERVATION_POLICY
      "scheduler" (some (dailyRow day buying selling mid))
    validate 17 "12.4" "12.6" "12.5" = .ok oneDecimal ∧ validate 18 "12.40" "12.60" "12.50" = .ok twoDecimals ∧
      validate 19 "1.24" "1.26" "1.25" = .ok tenth := by
  simp only [validateFxSourceRow, daily_retrieval]
  decide +kernel

theorem oneDecimal_observed : ∀ o ∈ [twoDecimals, oneDecimal], Observed o := by
  intro o ho
  rcases List.mem_cons.mp ho with rfl | ho
  · exact ⟨_, _, _, _, daily_validate.2.1⟩
  · obtain rfl := List.mem_singleton.mp ho
    exact ⟨_, _, _, _, daily_validate.1⟩

/-- What the two days give. -/
theorem fx_change_iff_daily : ∃ newest previous rest, [twoDecimals, oneDecimal].Perm (newest :: previous :: rest) ∧
    (((analyzeFxSourceObservations dailyParams [twoDecimals, oneDecimal]).changed = some true ↔
      newest.figures ≠ previous.figures) ↔ ¬ScalesMislead newest previous) := by
  obtain ⟨newest, previous, rest, hperm, -, -, hchanged, -⟩ :=
    fx_change_iff oneDecimal_observed (le_refl 2) dailyParams
  exact ⟨newest, previous, rest, hperm, hchanged⟩

/-- Equal figures are reported as a change when the number of decimals changes, and a tenth of the figures is
    not when their integers are the same. -/
theorem scale_change_misreported :
    Observed oneDecimal ∧ Observed twoDecimals ∧ Observed tenth ∧
    (analyzeFxSourceObservations dailyParams [oneDecimal, twoDecimals]).changed = some true ∧
    twoDecimals.figures = oneDecimal.figures ∧
    (analyzeFxSourceObservations dailyParams [oneDecimal, tenth]).changed = some false ∧
    tenth.figures ≠ oneDecimal.figures := by
  refine ⟨⟨_, _, _, _, daily_validate.1⟩, ⟨_, _, _, _, daily_validate.2.1⟩, ⟨_, _, _, _, daily_validate.2.2⟩,
    by decide, ?_, by decide, ?_⟩
  · unfold FxSourceObservation.figures twoDecimals oneDecimal dailyObservation
    norm_num
  · unfold FxSourceObservation.figures tenth oneDecimal dailyObservation
    rw [Ne, PublishedFigures.mk.injEq]
    norm_num

end VeltrixEye.Billing.FxSources
