import VeltrixEye.Strategies.Levels
import VeltrixEye.Scoring.Engine

/-!
# The offered reward and the targets that carry it

Under the rr method the achievable ratio is read from the configuration, and the targets are computed
from prices and dropped when they are not positive.
-/

namespace VeltrixEye.Scoring

/-! ## What is promised -/

/-- The three target legs. -/
def targetsOf (c : CandidateTrade) : List (Option JsNumber) := [c.tp1Price, c.tp2Price, c.tp3Price]

def storedTargetsOf (levels : DetectionLevels) : List (Option JsNumber) :=
  [levels.tp1Price, levels.tp2Price, levels.tp3Price]

/-- Some target is at `m` times the risk distance at least, and is stored. -/
def CarriesReward (candidate : Option CandidateTrade) (direction : Direction) (m : ℚ) : Prop :=
  ∃ (c : CandidateTrade) (levels : DetectionLevels) (e d p : ℚ) (k : ℕ), candidate = some c ∧
    detectionLevels (some c.view) direction = some levels ∧ c.entryPrice = .fin e ∧
    c.riskDistance = .fin d ∧ (targetsOf c)[k]? = some (some (.fin p)) ∧
    (storedTargetsOf levels)[k]? = some (some (.fin p)) ∧ m * d ≤ |p - e|

/-- Whichever check says that the reward reaches `m`, the candidate carries it. -/
def RewardHonest (risk : VersionRisk) (closed : CandleSet) (pipSize : Option JsNumber)
    (direction : Direction) (m : ℚ) : Prop :=
  let candidate := deriveCandidate risk closed.setup pipSize direction
  (∀ c : StoredCondition, parseParams c.conditionType c.params = some (.rr_requirement m) →
      conditionStatus ⟨direction, risk, closed, candidate⟩ c = .satisfied →
      CarriesReward candidate direction m) ∧
    (achievableMeets candidate m = true → CarriesReward candidate direction m)

/-- The configured multiples. -/
def multiplesOf (risk : VersionRisk) : List ℚ := [risk.tp1Rr, risk.tp2Rr, risk.tp3Rr]

/-- A short rr version with its final multiple at `m` or beyond keeps some multiple from `m` on at a
    positive price: that many times the stop's distance is less than the entry. -/
def TargetsReach (risk : VersionRisk) (candles : List CandleDto) (pipSize : Option JsNumber)
    (direction : Direction) (m : ℚ) : Prop :=
  direction = .short → risk.takeProfitMethod = .rr → m ≤ risk.tp3Rr → 2 ≤ candles.length →
  ∀ (last : CandleDto) (buffer stop : JsNumber), candles.getLast? = some last →
    bufferToPrice risk.stopLossBuffer risk.stopLossBufferUnit last.close pipSize = some buffer →
    candidateStop risk (sliceLast CANDIDATE_WINDOW candles) last.close buffer .short = some stop →
    ∃ r ∈ multiplesOf risk, m ≤ r ∧
      JsNumber.lt (JsNumber.mul (JsNumber.sub stop last.close) (.fin r)) last.close = true

/-! ## Derived candidates -/

section Derived

variable {risk : VersionRisk} {candles : List CandleDto} {pipSize : Option JsNumber}
  {direction : Direction} {c : CandidateTrade} {m : ℚ}

theorem achievableMeets_rr (hmethod : risk.takeProfitMethod = .rr) (htp3 : 0 < risk.tp3Rr)
    {window : List CandleDto} {entry stop distance : JsNumber} :
    achievableMeets (some (candidateAt risk window entry stop distance direction)) m = true ↔
      m ≤ risk.tp3Rr := by
  have hpositive : (some (JsNumber.fin risk.tp3Rr)).filter (JsNumber.lt 0) = some (.fin risk.tp3Rr) :=
    if_pos (decide_eq_true htp3)
  unfold achievableMeets candidateAt
  rw [hmethod]
  dsimp only
  rw [hpositive, Option.any_some, Option.any_some, JsNumber.le_fin, decide_eq_true_eq]

theorem rrTarget_reaches {e d r : ℚ} (he : 0 < e) (hd : 0 < d) (hr : 0 < r) :
    (∃ p : ℚ, (some (rrTarget direction (.fin e) (.fin d) r)).filter (JsNumber.lt 0) = some (.fin p) ∧
      m * d ≤ |p - e|) ↔ m ≤ r ∧ (direction = .short → d * r < e) := by
  constructor
  · rintro ⟨p, hp, hreward⟩
    refine ⟨?_, fun hshort => ?_⟩
    · rw [rrTarget_distance hd hr hp, mul_comm] at hreward
      exact le_of_mul_le_mul_left hreward hd
    · obtain ⟨-, hpositive⟩ := Option.filter_eq_some_iff.mp hp
      rw [hshort, rrTarget_fin] at hp
      have hprice := (Option.filter_eq_some_iff.mp hp).1
      cases hprice
      exact sub_pos.mp (of_decide_eq_true hpositive)
  · rintro ⟨hm, hreach⟩
    have hprice : ∃ p : ℚ, rrTarget direction (.fin e) (.fin d) r = .fin p ∧ 0 < p := by
      rw [rrTarget_fin]
      have hstep := mul_pos hd hr
      cases direction with
      | long => exact ⟨e + d * r, rfl, by linarith⟩
      | short => exact ⟨e - d * r, rfl, sub_pos.mpr (hreach rfl)⟩
    obtain ⟨p, hp, hpositive⟩ := hprice
    have hleg : (some (rrTarget direction (.fin e) (.fin d) r)).filter (JsNumber.lt 0) =
        some (.fin p) := by
      rw [hp]
      exact if_pos (decide_eq_true hpositive)
    refine ⟨p, hleg, ?_⟩
    rw [rrTarget_distance hd hr hleg, mul_comm]
    exact mul_le_mul_of_nonneg_left hm hd.le

theorem targetsOf_rr (hmethod : risk.takeProfitMethod = .rr) {window : List CandleDto}
    {entry stop distance : JsNumber} :
    targetsOf (candidateAt risk window entry stop distance direction) =
      (multiplesOf risk).map fun r => (some (rrTarget direction entry distance r)).filter (JsNumber.lt 0) := by
  unfold targetsOf candidateAt multiplesOf
  rw [hmethod]
  rfl

theorem carriesReward_rr (hrisk : risk.Accepted) (hmethod : risk.takeProfitMethod = .rr)
    {window : List CandleDto} {e d : ℚ} (he : 0 < e) (hd : 0 < d) {stop : JsNumber} :
    (∃ leg ∈ targetsOf (candidateAt risk window (.fin e) stop (.fin d) direction),
        ∃ p : ℚ, leg = some (.fin p) ∧ m * d ≤ |p - e|) ↔
      ∃ r ∈ multiplesOf risk, m ≤ r ∧ (direction = .short → d * r < e) := by
  have hpositive : ∀ r ∈ multiplesOf risk, 0 < r := by
    intro r hr
    simp only [multiplesOf, List.mem_cons, List.not_mem_nil, or_false] at hr
    rcases hr with rfl | rfl | rfl
    · exact hrisk.tp1_pos
    · exact hrisk.tp2_pos
    · exact hrisk.tp3_pos
  rw [targetsOf_rr hmethod]
  constructor
  · rintro ⟨leg, hleg, hreach⟩
    obtain ⟨r, hr, rfl⟩ := List.mem_map.mp hleg
    exact ⟨r, hr, (rrTarget_reaches he hd (hpositive r hr)).mp hreach⟩
  · rintro ⟨r, hr, hreach⟩
    exact ⟨_, List.mem_map.mpr ⟨r, hr, rfl⟩, (rrTarget_reaches he hd (hpositive r hr)).mpr hreach⟩

theorem carriesReward_structure (hmethod : risk.takeProfitMethod = .structure) {window : List CandleDto}
    (hpriced : ∀ x ∈ window, x.Priced) {e d : ℚ} (hd : 0 < d) {stop : JsNumber}
    (h : achievableMeets (some (candidateAt risk window (.fin e) stop (.fin d) direction)) m = true) :
    ∃ leg ∈ targetsOf (candidateAt risk window (.fin e) stop (.fin d) direction),
      ∃ p : ℚ, leg = some (.fin p) ∧ m * d ≤ |p - e| := by
  unfold achievableMeets candidateAt at h
  unfold targetsOf candidateAt
  rw [hmethod] at h ⊢
  dsimp only at h ⊢
  rw [Option.any_some, Option.any_eq_true] at h
  obtain ⟨ratio, hratio, hmeets⟩ := h
  obtain ⟨hratio, -⟩ := Option.filter_eq_some_iff.mp hratio
  obtain ⟨target, htarget, rfl⟩ := Option.map_eq_some_iff.mp hratio
  obtain ⟨p, rfl, hp, -⟩ := structuralTarget_side hpriced htarget
  have hleg : (structuralTarget window direction (.fin e)).filter (JsNumber.lt 0) = some (.fin p) := by
    rw [htarget]
    exact if_pos (decide_eq_true hp)
  refine ⟨_, List.mem_cons_self, p, hleg, ?_⟩
  have hdiv : JsNumber.div (JsNumber.abs (JsNumber.sub (.fin p) (.fin e))) (.fin d) = .fin (|p - e| / d) := by
    rw [JsNumber.sub_fin, JsNumber.abs_fin]
    exact if_neg hd.ne'
  rw [hdiv, JsNumber.le_fin, decide_eq_true_eq] at hmeets
  exact (le_div_iff₀ hd).mp hmeets

theorem achievableMeets_of_requirement (hrisk : risk.Accepted) (hpriced : ∀ x ∈ candles, x.Priced)
    {ctx : HandlerContext} (hctx : ctx.risk = risk)
    (hcandidate : ctx.candidate = deriveCandidate risk candles pipSize direction)
    (h : rrRequirement m ctx = .satisfied) : achievableMeets ctx.candidate m = true := by
  unfold rrRequirement at h
  rw [hctx] at h
  cases hc : ctx.candidate with
  | none => rw [hc] at h; cases h
  | some c =>
    rw [hc] at h
    dsimp only at h
    cases hmethod : risk.takeProfitMethod with
    | rr =>
      rw [hmethod] at h
      have hmeets : m ≤ risk.tp3Rr := by
        by_contra hlt
        simp [verdict, hlt] at h
      obtain ⟨-, -, -, -, -, -, -, -, -, -, -, rfl⟩ := deriveCandidate_ok hrisk hpriced (hcandidate.symm.trans hc)
      exact (achievableMeets_rr hmethod hrisk.tp3_pos).mpr hmeets
    | «structure» =>
      rw [hmethod] at h
      unfold achievableMeets
      rw [Option.any_some]
      cases hratio : c.achievableRr with
      | none => rw [hratio] at h; cases h
      | some ratio =>
        rw [hratio] at h
        by_contra hlt
        rw [Option.any_some] at hlt
        simp [verdict, hlt] at h
    | manual => rw [hmethod] at h; cases h

theorem two_le_length_of_candidate (h : deriveCandidate risk candles pipSize direction = some c) :
    2 ≤ candles.length := by
  unfold deriveCandidate at h
  split at h
  · cases h
  · rename_i hlength
    exact not_lt.mp hlength

theorem deriveCandidate_some (hlength : 2 ≤ candles.length) {last : CandleDto} {e s : ℚ}
    {buffer : JsNumber} (hlast : candles.getLast? = some last) (he : last.close = .fin e)
    (hbuffer : bufferToPrice risk.stopLossBuffer risk.stopLossBufferUnit (.fin e) pipSize = some buffer)
    (hstop : candidateStop risk (sliceLast CANDIDATE_WINDOW candles) (.fin e) buffer direction =
      some (.fin s)) (hs : 0 < s) (hes : e ≠ s) :
    deriveCandidate risk candles pipSize direction =
      some (candidateAt risk (sliceLast CANDIDATE_WINDOW candles) (.fin e) (.fin s) (.fin |e - s|)
        direction) := by
  have hpositive : JsNumber.le (.fin s) 0 = false :=
    (JsNumber.le_fin s 0).trans (decide_eq_false (not_le.mpr hs))
  have hdistance : JsNumber.lt 0 (.fin |e - s|) = true := decide_eq_true (abs_pos.mpr (sub_ne_zero.mpr hes))
  unfold deriveCandidate
  rw [if_neg (not_lt.mpr hlength), hlast]
  simp only [Option.bind_eq_bind, Option.bind_some, he, hbuffer, hstop, JsNumber.sub_fin, JsNumber.abs_fin]
  rw [hpositive]
  exact (if_neg Bool.false_ne_true).trans (if_pos hdistance)

theorem targetsReach_of_none (hrisk : risk.Accepted) (hpriced : ∀ x ∈ candles, x.Priced)
    (h : deriveCandidate risk candles pipSize direction = none) :
    TargetsReach risk candles pipSize direction m := by
  intro hshort hmethod hm hlength last buffer stop hlast hbuffer hstop
  obtain ⟨-, -, l, e, -, -, -, he, hl, -, -, hle, -⟩ := hpriced last (List.mem_of_getLast? hlast)
  have he0 : 0 < e := by linarith
  rw [he] at hbuffer hstop ⊢
  obtain ⟨b, rfl, hb⟩ := bufferToPrice_nonneg hrisk.buffer_nonneg he0.le hbuffer
  have hwindow : ∀ x ∈ sliceLast CANDIDATE_WINDOW candles, x.Priced :=
    fun x hx => hpriced x (List.mem_of_mem_drop hx)
  obtain ⟨s, rfl, hside⟩ := candidateStop_side hwindow (window_ne_nil hlength) hb hstop
  have hside : e ≤ s := hside
  have hes : e = s := by
    by_contra hne
    rw [← hshort] at hstop
    rw [deriveCandidate_some hlength hlast he hbuffer hstop (by linarith) hne] at h
    cases h
  refine ⟨risk.tp3Rr, by simp [multiplesOf], hm, ?_⟩
  rw [hes, JsNumber.sub_fin, sub_self]
  show decide (0 * risk.tp3Rr < s) = true
  rw [zero_mul]
  exact decide_eq_true (by linarith)

theorem rewardHonest_iff_check (hrisk : risk.Accepted) {closed : CandleSet}
    (hpriced : ∀ x ∈ closed.setup, x.Priced) :
    RewardHonest risk closed pipSize direction m ↔
      (achievableMeets (deriveCandidate risk closed.setup pipSize direction) m = true →
        CarriesReward (deriveCandidate risk closed.setup pipSize direction) direction m) := by
  constructor
  · exact fun h => h.2
  · refine fun h => ⟨fun x hparams hstatus => h ?_, h⟩
    unfold conditionStatus at hstatus
    rw [hparams] at hstatus
    exact achievableMeets_of_requirement hrisk hpriced rfl rfl hstatus

end Derived

/-! ## The exact condition -/

end VeltrixEye.Scoring
