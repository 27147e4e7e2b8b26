import VeltrixEye.Lib.Related
import VeltrixEye.Scoring.Engine

/-!
# The score is monotone in the evidence

Outcomes of the same rule groups are compared condition by condition: evidence moves up from not
evaluated over the answer that hurts the setup to the answer that supports it.

* `ConditionUp`, `GroupUp`, `SessionUp` — the comparison.
* `passed_mono` — a direction that passes still passes on better evidence.
* `points_mono` — no component loses points.
-/

namespace VeltrixEye.Scoring

/-! ## Outcomes of the same groups -/

/-- A rule group with the outcome of each of its conditions. -/
structure GroupStatuses where
  name : String
  logic : GroupLogic
  conditions : List ConditionOutcome

def GroupStatuses.outcome (g : GroupStatuses) : GroupOutcome :=
  ⟨g.name, g.logic, groupSatisfied g.logic g.conditions, groupRelevance g.conditions, g.conditions⟩

/-- `evaluateDirection` from the outcomes of the conditions and of the session filters on. -/
def directionOutcome (direction : Direction) (pipBufferUnresolved : Bool)
    (candidate : Option CandidateTrade) (groups : List GroupStatuses)
    (sessionFilters : List SessionFilterOutcome) : DirectionOutcome :=
  let outcomes := groups.map GroupStatuses.outcome
  let failureReasons :=
    (if pipBufferUnresolved then [.pipBufferUnresolved] else []) ++
    outcomes.flatMap groupReasons ++ sessionFilters.flatMap sessionReasons
  ⟨direction, failureReasons.isEmpty, outcomes, sessionFilters, candidate, failureReasons⟩

/-! ## Better evidence -/

/-- Not evaluated, then the answer against the setup, then the answer for it. -/
def evidenceRank (disqualifying : Bool) : EvaluationOutcomeStatus → ℕ
  | .satisfied => if disqualifying then 1 else 2
  | .unsatisfied => if disqualifying then 2 else 1
  | .insufficient_data => 0
  | .unsupported => 0

def ConditionOutcome.rank (c : ConditionOutcome) : ℕ :=
  evidenceRank (c.classification = .disqualifying) c.status

/-- The same condition with evidence that is no worse. -/
structure ConditionUp (c c' : ConditionOutcome) : Prop where
  conditionType : c'.conditionType = c.conditionType
  classification : c'.classification = c.classification
  timeframeRole : c'.timeframeRole = c.timeframeRole
  rank : ConditionOutcome.rank c ≤ ConditionOutcome.rank c'

structure GroupUp (g g' : GroupStatuses) : Prop where
  name : g'.name = g.name
  logic : g'.logic = g.logic
  conditions : List.Forall₂ ConditionUp g.conditions g'.conditions

structure SessionUp (sf sf' : SessionFilterOutcome) : Prop where
  filter : sf'.filter = sf.filter
  rank : evidenceRank false sf.status ≤ evidenceRank false sf'.status

theorem evidenceRank_top {disqualifying : Bool} {status : EvaluationOutcomeStatus} :
    2 ≤ evidenceRank disqualifying status ↔
      status = if disqualifying then .unsatisfied else .satisfied := by
  cases disqualifying <;> cases status <;> decide

theorem evidenceRank_pos {disqualifying : Bool} {status : EvaluationOutcomeStatus} :
    1 ≤ evidenceRank disqualifying status ↔ evaluable status = true := by
  cases disqualifying <;> cases status <;> decide

namespace ConditionUp

variable {c c' : ConditionOutcome}

theorem satisfied (h : ConditionUp c c') (hc : c.classification ≠ .disqualifying)
    (hs : c.status = .satisfied) : c'.status = .satisfied := by
  have hrank : 2 ≤ ConditionOutcome.rank c := evidenceRank_top.mpr (by simpa [hc] using hs)
  have hrank' := evidenceRank_top.mp (hrank.trans h.rank)
  rwa [h.classification, decide_eq_false hc] at hrank'

theorem unsatisfied (h : ConditionUp c c') (hc : c.classification = .disqualifying)
    (hs : c.status = .unsatisfied) : c'.status = .unsatisfied := by
  have hrank : 2 ≤ ConditionOutcome.rank c := evidenceRank_top.mpr (by simpa [hc] using hs)
  have hrank' := evidenceRank_top.mp (hrank.trans h.rank)
  rwa [h.classification, decide_eq_true hc] at hrank'

theorem evaluable (h : ConditionUp c c') (he : Scoring.evaluable c.status = true) :
    Scoring.evaluable c'.status = true :=
  evidenceRank_pos.mp ((evidenceRank_pos.mpr he).trans h.rank)

end ConditionUp

theorem SessionUp.satisfied {sf sf' : SessionFilterOutcome} (h : SessionUp sf sf')
    (hs : sf.status = .satisfied) : sf'.status = .satisfied :=
  evidenceRank_top.mp ((evidenceRank_top.mpr hs).trans h.rank)

theorem SessionUp.evaluable {sf sf' : SessionFilterOutcome} (h : SessionUp sf sf')
    (he : Scoring.evaluable sf.status = true) : Scoring.evaluable sf'.status = true :=
  evidenceRank_pos.mp ((evidenceRank_pos.mpr he).trans h.rank)

/-! ## Passing -/

/-- A condition that gives no reason to fail. -/
def ClearCondition (c : ConditionOutcome) : Prop :=
  (c.classification = .disqualifying → c.status = .unsatisfied) ∧
    (c.classification.gates = true → evaluable c.status = true)

theorem conditionReasons_eq_nil {group : String} {c : ConditionOutcome} :
    conditionReasons group c = [] ↔ ClearCondition c := by
  unfold conditionReasons ClearCondition
  cases c.classification <;> cases c.status <;>
    simp [ConditionClassification.gates, EvaluationOutcomeStatus.unevaluated, evaluable]

theorem ClearCondition.mono {c c' : ConditionOutcome} (h : ConditionUp c c') (hc : ClearCondition c) :
    ClearCondition c' := by
  refine ⟨fun hdisq => ?_, fun hgates => h.evaluable (hc.2 (h.classification ▸ hgates))⟩
  rw [h.classification] at hdisq
  exact h.unsatisfied hdisq (hc.1 hdisq)

theorem groupReasons_eq_nil {g : GroupStatuses} :
    groupReasons g.outcome = [] ↔
      (groupRelevance g.conditions = .pass → groupSatisfied g.logic g.conditions = true) ∧
        ∀ c ∈ g.conditions, ClearCondition c := by
  unfold groupReasons GroupStatuses.outcome
  rw [List.append_eq_nil_iff, List.flatMap_eq_nil_iff]
  refine and_congr ?_ (forall₂_congr fun c _ => conditionReasons_eq_nil)
  dsimp only
  cases groupSatisfied g.logic g.conditions <;> simp

theorem groupRelevance_eq {cs cs' : List ConditionOutcome} (h : List.Forall₂ ConditionUp cs cs') :
    groupRelevance cs' = groupRelevance cs := by
  unfold groupRelevance
  rw [Related.any_eq h (q := fun c => c.classification.gates) fun c c' hc => by rw [hc.classification],
    Related.any_eq h (q := fun c => decide (c.classification = .disqualifying)) fun c c' hc => by
      rw [hc.classification]]

theorem groupSatisfied_mono {logic : GroupLogic} {cs cs' : List ConditionOutcome}
    (h : List.Forall₂ ConditionUp cs cs') (hclear : ∀ c ∈ cs, ClearCondition c)
    (hs : groupSatisfied logic cs = true) : groupSatisfied logic cs' = true := by
  have hkeep : ∀ c ∈ cs, ∀ c', ConditionUp c c' → c.status = .satisfied → c'.status = .satisfied := by
    intro c hc c' hup hsat
    refine hup.satisfied (fun hdisq => ?_) hsat
    rw [(hclear c hc).1 hdisq] at hsat
    cases hsat
  cases logic with
  | and =>
    simp only [groupSatisfied, List.all_eq_true, decide_eq_true_eq] at hs ⊢
    intro c' hc'
    obtain ⟨c, hc, hup⟩ := Related.exists_right h hc'
    exact hkeep c hc c' hup (hs c hc)
  | or =>
    simp only [groupSatisfied, List.any_eq_true, decide_eq_true_eq] at hs ⊢
    obtain ⟨c, hc, hsat⟩ := hs
    obtain ⟨c', hc', hup⟩ := Related.exists_left h hc
    exact ⟨c', hc', hkeep c hc c' hup hsat⟩

theorem groupReasons_mono {g g' : GroupStatuses} (h : GroupUp g g') (hg : groupReasons g.outcome = []) :
    groupReasons g'.outcome = [] := by
  rw [groupReasons_eq_nil] at hg ⊢
  obtain ⟨hsatisfied, hclear⟩ := hg
  refine ⟨fun hrelevance => ?_, fun c' hc' => ?_⟩
  · rw [groupRelevance_eq h.conditions] at hrelevance
    rw [h.logic]
    exact groupSatisfied_mono h.conditions hclear (hsatisfied hrelevance)
  · obtain ⟨c, hc, hup⟩ := Related.exists_right h.conditions hc'
    exact (hclear c hc).mono hup

section Directions

variable {direction : Direction} {pipBufferUnresolved : Bool} {candidate : Option CandidateTrade}
  {groups groups' : List GroupStatuses} {sessionFilters sessionFilters' : List SessionFilterOutcome}

theorem passed_iff :
    (directionOutcome direction pipBufferUnresolved candidate groups sessionFilters).passed = true ↔
      pipBufferUnresolved = false ∧ (∀ g ∈ groups, groupReasons g.outcome = []) ∧
        ∀ sf ∈ sessionFilters, sf.status = .satisfied := by
  unfold directionOutcome
  dsimp only
  rw [List.isEmpty_iff, List.append_eq_nil_iff, List.append_eq_nil_iff, List.flatMap_eq_nil_iff,
    List.flatMap_eq_nil_iff, List.forall_mem_map, and_assoc]
  refine and_congr (by cases pipBufferUnresolved <;> simp) (and_congr Iff.rfl ?_)
  refine forall₂_congr fun sf _ => ?_
  unfold sessionReasons
  split <;> simp [*]

theorem passed_mono (hgroups : List.Forall₂ GroupUp groups groups')
    (hsessions : List.Forall₂ SessionUp sessionFilters sessionFilters')
    (h : (directionOutcome direction pipBufferUnresolved candidate groups sessionFilters).passed = true) :
    (directionOutcome direction pipBufferUnresolved candidate groups' sessionFilters').passed = true := by
  rw [passed_iff] at h ⊢
  obtain ⟨hpip, hreasons, hsatisfied⟩ := h
  refine ⟨hpip, fun g' hg' => ?_, fun sf' hsf' => ?_⟩
  · obtain ⟨g, hg, hup⟩ := Related.exists_right hgroups hg'
    exact groupReasons_mono hup (hreasons g hg)
  · obtain ⟨sf, hsf, hup⟩ := Related.exists_right hsessions hsf'
    exact hup.satisfied (hsatisfied sf hsf)

end Directions

/-! ## Points -/

theorem round2_mono {x y : ℚ} (h : x ≤ y) : round2 x ≤ round2 y := by
  unfold round2
  have hround : round (x * 100) ≤ round (y * 100) := Rounding.round_mono (by linarith)
  have hcast : (round (x * 100) : ℚ) ≤ round (y * 100) := by exact_mod_cast hround
  linarith

theorem round2_natCast (n : ℕ) : round2 n = n := by
  unfold round2
  have hcast : (n : ℚ) * 100 = ((n * 100 : ℤ) : ℚ) := by push_cast; ring
  rw [hcast, round_intCast]
  push_cast
  ring

section Component

variable {name : M5ComponentName} {label : String} {weight : ℕ} {fraction fraction' : ℚ}

theorem component_mono (h : fraction ≤ fraction') :
    (component name label weight fraction).points ≤ (component name label weight fraction').points := by
  have hclamped : max 0 (min 1 fraction) ≤ max 0 (min 1 fraction') :=
    max_le_max_left 0 (min_le_min_left 1 h)
  exact round2_mono (mul_le_mul_of_nonneg_left hclamped (Nat.cast_nonneg weight))

theorem component_points_nonneg : 0 ≤ (component name label weight fraction).points := by
  have hpoints : ((0 : ℕ) : ℚ) ≤ weight * max 0 (min 1 fraction) := by
    rw [Nat.cast_zero]
    exact mul_nonneg (Nat.cast_nonneg weight) (le_max_left 0 (min 1 fraction))
  have h := round2_mono hpoints
  rwa [round2_natCast, Nat.cast_zero] at h

theorem component_points_le : (component name label weight fraction).points ≤ weight := by
  have hclamped : max 0 (min 1 fraction) ≤ 1 := max_le zero_le_one (min_le_left 1 fraction)
  have h := round2_mono (mul_le_mul_of_nonneg_left hclamped (Nat.cast_nonneg (α := ℚ) weight))
  rw [mul_one, round2_natCast] at h
  exact h

end Component

theorem share_mono {α β : Type} {R : α → β → Prop} {vacuous : ℚ} {xs : List α} {ys : List β}
    (h : List.Forall₂ R xs ys) {p : α → Bool} {q : β → Bool}
    (hpq : ∀ x y, R x y → p x = true → q y = true) : share vacuous xs p ≤ share vacuous ys q := by
  have hcount : ((xs.filter p).length : ℚ) ≤ (ys.filter q).length := by
    exact_mod_cast Related.filter_length_le h hpq
  have hlength := h.length_eq
  cases h with
  | nil => exact le_rfl
  | cons _ _ =>
    unfold share
    rw [if_neg (by simp), if_neg (by simp), hlength]
    exact div_le_div_of_nonneg_right hcount (Nat.cast_nonneg _)

/-- A unit may become satisfied. -/
def UnitUp (u u' : Bool) : Prop := u = true → u' = true

section Units

variable {keep : ConditionOutcome → Bool} {groups groups' : List GroupStatuses}

/-- `keep` reads only the declared part of a condition and takes no disqualifier. -/
structure Declared (keep : ConditionOutcome → Bool) : Prop where
  stable : ∀ c c' : ConditionOutcome, ConditionUp c c' → keep c = keep c'
  supports : ∀ c : ConditionOutcome, keep c = true → c.classification ≠ .disqualifying

theorem groupUnits_mono (hkeep : Declared keep) {g g' : GroupStatuses} (h : GroupUp g g') :
    List.Forall₂ UnitUp (groupUnits keep g.outcome) (groupUnits keep g'.outcome) := by
  have hmembers := Related.filter h.conditions hkeep.stable
  have hsatisfied : ∀ c c', (ConditionUp c c' ∧ keep c = true) → decide (c.status = .satisfied) = true →
      decide (c'.status = .satisfied) = true :=
    fun c c' hup hs => decide_eq_true (hup.1.satisfied (hkeep.supports c hup.2) (of_decide_eq_true hs))
  unfold groupUnits GroupStatuses.outcome
  dsimp only
  rw [h.logic]
  generalize g.conditions.filter keep = members at hmembers ⊢
  generalize g'.conditions.filter keep = members' at hmembers ⊢
  cases hmembers with
  | nil => exact .nil
  | @cons c c' rest rest' hc hrest =>
    have hall : List.Forall₂ (fun x y => ConditionUp x y ∧ keep x = true) (c :: rest) (c' :: rest') :=
      .cons hc hrest
    rw [if_neg (by simp), if_neg (by simp)]
    cases g.logic with
    | or => exact .cons (Related.any_mono hall hsatisfied) .nil
    | and => exact List.rel_map (fun c c' hup => hsatisfied c c' hup) hall

theorem scoringUnits_mono (hkeep : Declared keep) (h : List.Forall₂ GroupUp groups groups') :
    List.Forall₂ UnitUp (scoringUnits (groups.map GroupStatuses.outcome) keep)
      (scoringUnits (groups'.map GroupStatuses.outcome) keep) := by
  unfold scoringUnits
  rw [List.flatMap_map, List.flatMap_map]
  exact List.rel_flatMap h fun g g' hup => groupUnits_mono hkeep hup

theorem unitShare_mono (hkeep : Declared keep) (h : List.Forall₂ GroupUp groups groups') (vacuous : ℚ) :
    share vacuous (scoringUnits (groups.map GroupStatuses.outcome) keep) id ≤
      share vacuous (scoringUnits (groups'.map GroupStatuses.outcome) keep) id :=
  share_mono (scoringUnits_mono hkeep h) fun _ _ hup => hup

end Units

theorem declared_classification {classification : ConditionClassification}
    (hne : classification ≠ .disqualifying) :
    Declared fun c => decide (c.classification = classification) where
  stable c c' h := by rw [h.classification]
  supports c hc := by rw [of_decide_eq_true hc]; exact hne

theorem declared_alignment :
    Declared fun c =>
      decide (c.timeframeRole = .role .htf_bias) && decide (c.classification ≠ .disqualifying) where
  stable c c' h := by rw [h.classification, h.timeframeRole]
  supports c hc := of_decide_eq_true (Bool.and_eq_true _ _ ▸ hc).2

section Components

variable {groups groups' : List GroupStatuses} {sessionFilters sessionFilters' : List SessionFilterOutcome}

theorem conditions_related (h : List.Forall₂ GroupUp groups groups') :
    List.Forall₂ ConditionUp ((groups.map GroupStatuses.outcome).flatMap (·.conditions))
      ((groups'.map GroupStatuses.outcome).flatMap (·.conditions)) := by
  rw [List.flatMap_map, List.flatMap_map]
  exact List.rel_flatMap h fun g g' hup => hup.conditions

theorem clearanceComponent_mono (weight : ℕ) {cs cs' : List ConditionOutcome}
    (h : List.Forall₂ ConditionUp cs cs') :
    (clearanceComponent weight (cs.filter fun c => c.classification = .disqualifying)).points ≤
      (clearanceComponent weight (cs'.filter fun c => c.classification = .disqualifying)).points := by
  have hmembers := Related.filter h (p := fun c => decide (c.classification = .disqualifying))
    (q := fun c => decide (c.classification = .disqualifying)) fun c c' hup => by rw [hup.classification]
  refine component_mono (share_mono hmembers fun c c' hup hs => ?_)
  exact decide_eq_true (hup.1.unsatisfied (of_decide_eq_true hup.2) (of_decide_eq_true hs))

theorem completenessComponent_mono (weight : ℕ) {context context' : M5ScoringContext}
    (hcandidate : context'.evaluation.candidate = context.evaluation.candidate)
    (hminRr : context'.minRr = context.minRr)
    (hmethod : context'.takeProfitMethod = context.takeProfitMethod)
    (hsessions : List.Forall₂ SessionUp context.evaluation.sessionFilters
      context'.evaluation.sessionFilters) :
    (completenessComponent weight context).points ≤ (completenessComponent weight context').points := by
  have hall : UnitUp (context.evaluation.sessionFilters.all fun sf => sf.status = .satisfied)
      (context'.evaluation.sessionFilters.all fun sf => sf.status = .satisfied) :=
    Related.all_mono hsessions fun sf sf' hup hs => decide_eq_true (hup.satisfied (of_decide_eq_true hs))
  have hchecks : List.Forall₂ UnitUp (completenessChecks context) (completenessChecks context') := by
    unfold completenessChecks
    rw [hcandidate, hminRr, hmethod]
    exact .cons id (.cons id (.cons id (.cons hall .nil)))
  refine component_mono ?_
  rw [show (completenessChecks context').length = (completenessChecks context).length from rfl]
  refine div_le_div_of_nonneg_right ?_ (Nat.cast_nonneg _)
  exact_mod_cast Related.filter_length_le hchecks fun _ _ hup => hup

theorem dataSufficiencyComponent_mono (weight : ℕ) {cs cs' : List ConditionOutcome}
    (h : List.Forall₂ ConditionUp cs cs') (hsessions : List.Forall₂ SessionUp sessionFilters sessionFilters') :
    (dataSufficiencyComponent weight cs sessionFilters).points ≤
      (dataSufficiencyComponent weight cs' sessionFilters').points := by
  have hconditions := Related.filter_length_le h (p := fun c => evaluable c.status)
    (q := fun c => evaluable c.status) fun c c' hup he => hup.evaluable he
  have hfilters := Related.filter_length_le hsessions (p := fun sf => evaluable sf.status)
    (q := fun sf => evaluable sf.status) fun sf sf' hup he => hup.evaluable he
  refine component_mono ?_
  rw [h.length_eq, hsessions.length_eq]
  split
  · exact le_rfl
  · refine div_le_div_of_nonneg_right ?_ (Nat.cast_nonneg _)
    exact_mod_cast Nat.add_le_add hconditions hfilters

end Components

/-! ## The total -/

section Total

variable {groups groups' : List GroupStatuses} {sessionFilters sessionFilters' : List SessionFilterOutcome}

theorem points_mono (direction : Direction) (pipBufferUnresolved : Bool)
    (candidate : Option CandidateTrade) (minRr : ℚ) (takeProfitMethod : TakeProfitMethod) (asOfMs : ℤ)
    (hgroups : List.Forall₂ GroupUp groups groups')
    (hsessions : List.Forall₂ SessionUp sessionFilters sessionFilters') :
    List.Forall₂ (fun c c' : ScoreComponent => c.points ≤ c'.points)
      (scoreComponents ⟨directionOutcome direction pipBufferUnresolved candidate groups sessionFilters,
        minRr, takeProfitMethod, asOfMs⟩)
      (scoreComponents ⟨directionOutcome direction pipBufferUnresolved candidate groups' sessionFilters',
        minRr, takeProfitMethod, asOfMs⟩) := by
  have hconditions := conditions_related hgroups
  refine .cons ?_ (.cons ?_ (.cons ?_ (.cons ?_ (.cons ?_ (.cons ?_ (.cons ?_ .nil))))))
  · exact component_mono (unitShare_mono (declared_classification (by decide)) hgroups 1)
  · exact component_mono (unitShare_mono (declared_classification (by decide)) hgroups 1)
  · exact clearanceComponent_mono _ hconditions
  · exact component_mono (unitShare_mono (declared_classification (by decide)) hgroups 0)
  · exact component_mono (unitShare_mono declared_alignment hgroups 0)
  · exact completenessComponent_mono _ rfl rfl rfl hsessions
  · exact dataSufficiencyComponent_mono _ hconditions hsessions

theorem points_bounds (context : M5ScoringContext) :
    ∀ c ∈ scoreComponents context, 0 ≤ c.points ∧ c.points ≤ c.weight := by
  intro c hc
  obtain ⟨name, label, weight, fraction, rfl⟩ :
      ∃ name label weight fraction, c = component name label weight fraction := by
    simp only [scoreComponents, List.mem_cons, List.not_mem_nil, or_false] at hc
    rcases hc with rfl | rfl | rfl | rfl | rfl | rfl | rfl
    all_goals exact ⟨_, _, _, _, rfl⟩
  exact ⟨component_points_nonneg, component_points_le⟩

theorem weights_sum (context : M5ScoringContext) :
    ((scoreComponents context).map fun c => (c.weight : ℚ)).sum = 100 := by
  show ([25, 15, 20, 15, 10, 10, 5] : List ℚ).sum = 100
  norm_num

theorem pointsTotal_bounds (context : M5ScoringContext) :
    0 ≤ ((scoreComponents context).map (·.points)).sum ∧
      ((scoreComponents context).map (·.points)).sum ≤ 100 := by
  constructor
  · refine List.sum_nonneg fun x hx => ?_
    obtain ⟨c, hc, rfl⟩ := List.mem_map.mp hx
    exact (points_bounds context c hc).1
  · rw [← weights_sum context]
    exact List.sum_le_sum fun c hc => (points_bounds context c hc).2

theorem round_bounds {x : ℚ} (h : 0 ≤ x ∧ x ≤ 100) : 0 ≤ round x ∧ round x ≤ 100 := by
  have hlow := Rounding.round_mono h.1
  have hhigh := Rounding.round_mono h.2
  rw [round_zero] at hlow
  rw [show (100 : ℚ) = ((100 : ℤ) : ℚ) from rfl, round_intCast] at hhigh
  exact ⟨hlow, hhigh⟩

theorem total_eq (context : M5ScoringContext) :
    (scoreSetupQuality context).total =
      if context.evaluation.passed then round (((scoreComponents context).map (·.points)).sum)
      else min (round (((scoreComponents context).map (·.points)).sum)) M5_FAILING_DIRECTION_CAP := by
  obtain ⟨hlow, hhigh⟩ := round_bounds (pointsTotal_bounds context)
  unfold scoreSetupQuality
  dsimp only
  rw [min_eq_right hhigh, max_eq_right hlow]

theorem qualityGrade_ignore {score : ℤ} (h : score ≤ M5_FAILING_DIRECTION_CAP) :
    qualityGrade score = .ignore := by
  have hclamped : max 0 (min 100 score) ≤ 64 := max_le (by decide) ((min_le_right _ _).trans h)
  have hnonneg : 0 ≤ max 0 (min 100 score) := le_max_left _ _
  unfold qualityGrade
  dsimp only
  generalize max 0 (min 100 score) = clamped at hclamped hnonneg ⊢
  have hbands : ∀ k : ℤ, 64 < k → decide (k ≤ clamped) = false := fun k hk => decide_eq_false (by omega)
  simp only [QUALITY_GRADE_BANDS, List.find?_cons, hbands 90 (by decide), hbands 85 (by decide),
    hbands 75 (by decide), hbands 65 (by decide), decide_eq_true hnonneg]

end Total

end VeltrixEye.Scoring
