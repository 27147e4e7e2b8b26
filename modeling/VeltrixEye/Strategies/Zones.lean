import VeltrixEye.Lib.Numerals
import VeltrixEye.Strategies.Indicators

/-!
# What the zone searches find (`strategies/evaluation/indicators.ts`)

`GapOf`, `OrderBlockOf` and `PivotAt` state the pinned definitions on the candles; `GreatestMatch`
is the result of a search that wants the match with the greatest index in a range.  The three
searches are read off one lemma on backward searches (`greatestMatch_search`) and one on pivots.

`findOrderBlock` starts at `max(1, len - n)`: the candle at `0` is within `n` candles of the end
as soon as `len <= n`, but it is never tried.
-/

namespace VeltrixEye

section Search

variable {β : Type}

/-- The result of looking for the greatest index in `lo ..< hi` with a match. -/
def GreatestMatch (P : ℕ → β → Prop) (lo hi : ℕ) : Option β → Prop
  | none => ∀ i z, lo ≤ i → i < hi → ¬ P i z
  | some z => ∃ i, lo ≤ i ∧ i < hi ∧ P i z ∧ ∀ j w, i < j → j < hi → ¬ P j w

theorem greatestMatch_range' {P : ℕ → β → Prop} {f : ℕ → Option β}
    (hf : ∀ i z, f i = some z ↔ P i z) (lo n : ℕ) :
    GreatestMatch P lo (lo + n) ((List.range' lo n).reverse.findSome? f) := by
  induction n with
  | zero =>
    intro i z hlo hhi
    omega
  | succ n ih =>
    rw [List.range'_1_concat, List.reverse_append, List.reverse_singleton, List.singleton_append,
      List.findSome?_cons]
    cases hlast : f (lo + n) with
    | some z =>
      refine ⟨lo + n, by omega, by omega, (hf _ _).mp hlast, fun j w hj hhi => ?_⟩
      omega
    | none =>
      have hno : ∀ w, ¬ P (lo + n) w := fun w hw => by
        rw [(hf _ w).mpr hw] at hlast
        cases hlast
      simp only
      revert ih
      cases (List.range' lo n).reverse.findSome? f with
      | none =>
        intro ih i z hlo hhi
        rcases Nat.lt_succ_iff_lt_or_eq.mp hhi with h | rfl
        · exact ih i z hlo h
        · exact hno z
      | some z =>
        rintro ⟨i, hlo, hhi, hP, hgreatest⟩
        refine ⟨i, hlo, by omega, hP, fun j w hij hj => ?_⟩
        rcases Nat.lt_succ_iff_lt_or_eq.mp hj with h | rfl
        · exact hgreatest j w hij h
        · exact hno w

theorem greatestMatch_search {P : ℕ → β → Prop} {f : ℕ → Option β}
    (hf : ∀ i z, f i = some z ↔ P i z) (lo hi : ℕ) :
    GreatestMatch P lo hi ((List.range' lo (hi - lo)).reverse.findSome? f) := by
  have h := greatestMatch_range' hf lo (hi - lo)
  rcases Nat.lt_or_ge hi lo with hlt | hle
  · rw [Nat.sub_eq_zero_of_le hlt.le]
    intro i z hlo hhi
    omega
  · rwa [Nat.add_sub_cancel' hle] at h

theorem greatestMatch_zero_iff {P : ℕ → β → Prop} {hi : ℕ} {r : Option β} (hhi : 0 < hi)
    (h : GreatestMatch P 1 hi r) :
    GreatestMatch P 0 hi r ↔ (∀ z, ¬ P 0 z) ∨ ∃ i z, 1 ≤ i ∧ i < hi ∧ P i z := by
  cases r with
  | none =>
    constructor
    · exact fun h0 => .inl fun z => h0 0 z le_rfl hhi
    · rintro (hzero | ⟨i, z, hi1, hi2, hP⟩)
      · intro i z _ hi2
        rcases Nat.eq_zero_or_pos i with rfl | hpos
        · exact hzero z
        · exact h i z hpos hi2
      · exact absurd hP (h i z hi1 hi2)
  | some z =>
    obtain ⟨i, hlo, hlt, hP, hgreatest⟩ := h
    exact iff_of_true ⟨i, Nat.zero_le i, hlt, hP, hgreatest⟩ (.inr ⟨i, z, hlo, hlt, hP⟩)

end Search

/-! ## Gaps and order blocks -/

/-- The candles at `i - 2` and `i` leave the gap `z`, large enough when a size is asked for. -/
def GapOf (candles : List CandleDto) (kind : PatternKind) (minGapSizePct : Option ℚ) (i : ℕ)
    (z : Zone) : Prop :=
  ∃ a c, candles[i - 2]? = some a ∧ candles[i]? = some c ∧
    (match kind with
      | .bullish => JsNumber.lt a.high c.low ∧ z = ⟨a.high, c.low, i, c.time⟩
      | .bearish => JsNumber.lt c.high a.low ∧ z = ⟨c.high, a.low, i, c.time⟩) ∧
    gapLargeEnough z.bottom z.top minGapSizePct

theorem fvgAt_eq_some {candles : List CandleDto} {kind : PatternKind} {minGapSizePct : Option ℚ}
    (i : ℕ) (z : Zone) :
    fvgAt candles kind minGapSizePct i = some z ↔ GapOf candles kind minGapSizePct i z := by
  unfold fvgAt GapOf
  simp only [Option.bind_eq_bind, Option.bind_eq_some_iff]
  refine exists_congr fun a => ?_
  rw [← exists_and_left]
  refine exists_congr fun c => ?_
  cases kind <;>
  · simp only [Option.ite_none_right_eq_some, Bool.and_eq_true, Option.some.injEq]
    refine and_congr_right fun _ => and_congr_right fun _ => ?_
    constructor
    · rintro ⟨⟨hgap, hlarge⟩, rfl⟩
      exact ⟨⟨hgap, rfl⟩, hlarge⟩
    · rintro ⟨⟨hgap, rfl⟩, hlarge⟩
      exact ⟨⟨hgap, hlarge⟩, rfl⟩

/-- The candle at `j` is against the kind, the next one with it, with a body at least
    `ORDER_BLOCK_BODY_MULT` times as large and a close beyond the candle's range. -/
def OrderBlockOf (candles : List CandleDto) (kind : PatternKind) (j : ℕ) (z : Zone) : Prop :=
  ∃ origin next, candles[j]? = some origin ∧ candles[j + 1]? = some next ∧
    (match kind with
      | .bullish => JsNumber.lt origin.close origin.open ∧ JsNumber.lt next.open next.close ∧
          JsNumber.lt origin.high next.close
      | .bearish => JsNumber.lt origin.open origin.close ∧ JsNumber.lt next.close next.open ∧
          JsNumber.lt next.close origin.low) ∧
    JsNumber.le (JsNumber.mul (.fin ORDER_BLOCK_BODY_MULT) (candleAnatomy origin).body)
      (candleAnatomy next).body ∧
    z = ⟨origin.low, origin.high, j, origin.time⟩

theorem orderBlockAt_eq_some {candles : List CandleDto} {kind : PatternKind} (j : ℕ) (z : Zone) :
    orderBlockAt candles kind j = some z ↔ OrderBlockOf candles kind j z := by
  unfold orderBlockAt OrderBlockOf
  simp only [Option.bind_eq_bind, Option.bind_eq_some_iff]
  refine exists_congr fun origin => ?_
  rw [← exists_and_left]
  refine exists_congr fun next => ?_
  cases kind <;>
    simp only [candleAnatomy, Option.ite_none_right_eq_some, Bool.and_eq_true, Option.some.injEq,
      and_assoc, @eq_comm _ _ z]

theorem not_orderBlockOf_of_length {candles : List CandleDto} {kind : PatternKind} {j : ℕ}
    (h : candles.length - 1 ≤ j) (z : Zone) : ¬ OrderBlockOf candles kind j z := by
  rintro ⟨_, next, _, hnext, _⟩
  have := (List.getElem?_eq_some_iff.mp hnext).1
  omega

/-- Where the start of the search makes no difference: it is not below `1`, the candle at `0`
    is no order block, or a later candle is one. -/
def OldestIrrelevant (candles : List CandleDto) (kind : PatternKind) (maxAgeCandles : ℕ) : Prop :=
  maxAgeCandles < candles.length ∨ (∀ z, ¬ OrderBlockOf candles kind 0 z) ∨
    ∃ j z, 1 ≤ j ∧ OrderBlockOf candles kind j z

theorem findOrderBlock_iff (candles : List CandleDto) (kind : PatternKind) (maxAgeCandles : ℕ) :
    GreatestMatch (OrderBlockOf candles kind) (candles.length - maxAgeCandles)
        (candles.length - 1) (findOrderBlock candles kind maxAgeCandles) ↔
      OldestIrrelevant candles kind maxAgeCandles := by
  have h := greatestMatch_search (@orderBlockAt_eq_some candles kind)
    (max 1 (candles.length - maxAgeCandles)) (candles.length - 1)
  unfold OldestIrrelevant findOrderBlock
  by_cases hage : maxAgeCandles < candles.length
  · rw [max_eq_right (by omega)] at h ⊢
    exact iff_of_true h (.inl hage)
  · have hzero : candles.length - maxAgeCandles = 0 := by omega
    rw [hzero] at h ⊢
    rw [or_iff_right hage]
    by_cases hlen : 1 < candles.length
    · -- the candle at `0` is a candidate that the loop leaves out
      rw [greatestMatch_zero_iff (by omega) h]
      refine or_congr_right ⟨?_, ?_⟩
      · rintro ⟨i, z, hi, -, hP⟩
        exact ⟨i, z, hi, hP⟩
      · rintro ⟨i, z, hi, hP⟩
        have : i < candles.length - 1 := by
          by_contra hlt
          exact not_orderBlockOf_of_length (not_lt.mp hlt) z hP
        exact ⟨i, z, hi, this, hP⟩
    · have hempty : candles.length - 1 - max 1 0 = 0 := by omega
      simp only [hempty]
      refine iff_of_true ?_ (.inl (not_orderBlockOf_of_length (by omega)))
      intro i z _ hi
      omega

/-! ## Pivots -/

/-- The pivots of one side: the price it reads and when a neighbour stands in the way. -/
def pivotsBy (price : CandleDto → JsNumber) (blocks : JsNumber → JsNumber → Bool)
    (candles : List CandleDto) (k : ℕ) : List Pivot :=
  (pivotPositions candles k).filterMap fun i =>
    candles[i]?.bind fun ci =>
      if (pivotNeighbours candles k i).any (fun cj => blocks (price ci) (price cj)) then none
      else some ⟨i, price ci, ci.time⟩

theorem pivotHighs_eq (candles : List CandleDto) (k : ℕ) :
    pivotHighs candles k = pivotsBy CandleDto.high (fun ci cj => JsNumber.le ci cj) candles k := rfl

theorem pivotLows_eq (candles : List CandleDto) (k : ℕ) :
    pivotLows candles k = pivotsBy CandleDto.low (fun ci cj => JsNumber.le cj ci) candles k := rfl

theorem mem_pivotPositions {candles : List CandleDto} {k i : ℕ} (hk : 1 ≤ k) :
    i ∈ pivotPositions candles k ↔ k ≤ i ∧ i + k < candles.length := by
  unfold pivotPositions
  rw [if_neg (by omega), List.mem_range'_1]
  omega

theorem mem_pivotNeighbours {candles : List CandleDto} {k i : ℕ} (hki : k ≤ i) (cj : CandleDto) :
    cj ∈ pivotNeighbours candles k i ↔
      ∃ j, j ≠ i ∧ i ≤ j + k ∧ j ≤ i + k ∧ candles[j]? = some cj := by
  unfold pivotNeighbours
  simp only [List.mem_filterMap, List.mem_range]
  constructor
  · rintro ⟨d, hd, hcj⟩
    split at hcj
    · cases hcj
    · exact ⟨i - k + d, by omega, by omega, by omega, hcj⟩
  · rintro ⟨j, hne, hlo, hhi, hcj⟩
    refine ⟨j + k - i, by omega, ?_⟩
    rw [if_neg (by omega), show i - k + (j + k - i) = j by omega]
    exact hcj

/-- `p` stands at a position with `k` candles on each side, all strictly on its inner side. -/
def PivotAt (price : CandleDto → JsNumber) (inside : JsNumber → JsNumber → Bool)
    (candles : List CandleDto) (k : ℕ) (p : Pivot) : Prop :=
  ∃ ci, candles[p.index]? = some ci ∧ k ≤ p.index ∧ p.index + k < candles.length ∧
    p.price = price ci ∧ p.time = ci.time ∧
    ∀ j cj, candles[j]? = some cj → j ≠ p.index → p.index ≤ j + k → j ≤ p.index + k →
      inside (price cj) (price ci)

/-- The pivots are exactly those positions, in increasing order. -/
def PivotsAre (price : CandleDto → JsNumber) (inside : JsNumber → JsNumber → Bool)
    (candles : List CandleDto) (k : ℕ) (ps : List Pivot) : Prop :=
  ps.Pairwise (fun p p' => p.index < p'.index) ∧
    ∀ p, p ∈ ps ↔ PivotAt price inside candles k p

theorem pivotsBy_spec {price : CandleDto → JsNumber} {blocks inside : JsNumber → JsNumber → Bool}
    {candles : List CandleDto} {k : ℕ} (hk : 1 ≤ k)
    (hblocks : ∀ ci ∈ candles, ∀ cj ∈ candles,
      inside (price cj) (price ci) = !blocks (price ci) (price cj)) :
    PivotsAre price inside candles k (pivotsBy price blocks candles k) := by
  have hindex : ∀ i p, (candles[i]?.bind fun ci =>
      if (pivotNeighbours candles k i).any (fun cj => blocks (price ci) (price cj)) then none
      else some (⟨i, price ci, ci.time⟩ : Pivot)) = some p → p.index = i := by
    intro i p hp
    obtain ⟨ci, -, hci⟩ := Option.bind_eq_some_iff.mp hp
    split at hci
    · cases hci
    · cases hci
      rfl
  constructor
  · have hpositions : (pivotPositions candles k).Pairwise (· < ·) := by
      unfold pivotPositions
      split_ifs
      · exact List.Pairwise.nil
      · exact List.pairwise_lt_range'
    refine hpositions.filterMap _ fun a a' haa p hp p' hp' => ?_
    rw [hindex a p hp, hindex a' p' hp']
    exact haa
  · intro p
    unfold pivotsBy
    rw [List.mem_filterMap]
    constructor
    · rintro ⟨i, hi, hp⟩
      obtain ⟨hki, hik⟩ := (mem_pivotPositions hk).mp hi
      obtain ⟨ci, hci, hite⟩ := Option.bind_eq_some_iff.mp hp
      split at hite
      · cases hite
      rename_i hnone
      cases hite
      refine ⟨ci, hci, hki, hik, rfl, rfl, fun j cj hcj hne hlo hhi => ?_⟩
      have hmem := (mem_pivotNeighbours hki cj).mpr ⟨j, hne, hlo, hhi, hcj⟩
      rw [hblocks ci (List.mem_of_getElem? hci) cj (List.mem_of_getElem? hcj),
        Bool.not_eq_true']
      simpa using fun hb => hnone (List.any_eq_true.mpr ⟨cj, hmem, hb⟩)
    · rintro ⟨ci, hci, hki, hik, hprice, htime, hin⟩
      refine ⟨p.index, (mem_pivotPositions hk).mpr ⟨hki, hik⟩, ?_⟩
      rw [hci, Option.bind_some, if_neg, ← hprice, ← htime]
      intro hany
      obtain ⟨cj, hmem, hb⟩ := List.any_eq_true.mp hany
      obtain ⟨j, hne, hlo, hhi, hcj⟩ := (mem_pivotNeighbours hki cj).mp hmem
      have := hin j cj hcj hne hlo hhi
      rw [hblocks ci (List.mem_of_getElem? hci) cj (List.mem_of_getElem? hcj), hb] at this
      cases this

theorem JsNumber.lt_eq_not_le {a b : JsNumber} (ha : a ≠ .nan) (hb : b ≠ .nan) :
    JsNumber.lt b a = !JsNumber.le a b := by
  cases a <;> cases b <;> simp_all [JsNumber.le]

open Numerals in
/-- A falling candle and the rising one that engulfs it, both within two candles of the end. -/
def engulfed : List CandleDto := [⟨0, 10, 11, 8, 9, none⟩, ⟨1, 9, 13, 9, 12, none⟩]

end VeltrixEye
