import VeltrixEye.Strategies.Engine

/-!
# What a condition's classification decides

`evaluateDirection` gives a direction no failure reason exactly when the pip buffer is resolved, every
group is clear and every session filter is satisfied (`direction_passed_iff`).  A group's satisfaction quantifies
over all of its members, so an optional condition, or a disqualifying one that was ruled out, still
decides the direction when it is the member that tips its group.
-/

namespace VeltrixEye

/-- The group has a required or confirmation condition. -/
def RuleGroup.Gates (group : RuleGroup) : Prop := ∃ c ∈ group.conditions, c.classification.gates

/-- Nothing a condition reports on its own speaks against the direction. -/
structure ConditionClear (ctx : DirectionContext) (c : StoredCondition) : Prop where
  ruledOut : c.classification = .disqualifying → conditionStatus ctx c = .unsatisfied
  evaluated : c.classification.gates → (conditionStatus ctx c).unevaluated = false

/-- The group's own logic holds over all of its members. -/
def GroupHolds (ctx : DirectionContext) (logic : GroupLogic) (conditions : List StoredCondition) :
    Prop :=
  match logic with
  | .and => ∀ c ∈ conditions, conditionStatus ctx c = .satisfied
  | .or => ∃ c ∈ conditions, conditionStatus ctx c = .satisfied

/-- The group gives no failure reason. -/
structure GroupClear (ctx : DirectionContext) (group : RuleGroup) : Prop where
  holds : group.Gates → GroupHolds ctx group.logic group.conditions
  conditions : ∀ c ∈ group.conditions, ConditionClear ctx c

section Passing

variable (ctx : DirectionContext)

theorem groupSatisfied_iff (logic : GroupLogic) (conditions : List StoredCondition) :
    groupSatisfied logic (conditions.map (conditionOutcome ctx)) = true ↔
      GroupHolds ctx logic conditions := by
  cases logic with
  | and =>
    simp only [groupSatisfied, List.all_map, List.all_eq_true]
    exact ⟨fun h c hc => of_decide_eq_true (h c hc), fun h c hc => decide_eq_true (h c hc)⟩
  | or =>
    simp only [groupSatisfied, List.any_map, List.any_eq_true]
    constructor
    · rintro ⟨c, hc, h⟩
      exact ⟨c, hc, of_decide_eq_true h⟩
    · rintro ⟨c, hc, h⟩
      exact ⟨c, hc, decide_eq_true h⟩

theorem groupRelevance_iff (conditions : List StoredCondition) :
    groupRelevance (conditions.map (conditionOutcome ctx)) = .pass ↔
      ∃ c ∈ conditions, c.classification.gates = true := by
  unfold groupRelevance
  split
  · rename_i h
    simpa [conditionOutcome] using h
  · rename_i h
    have hnone : ¬ ∃ c ∈ conditions, c.classification.gates = true := by
      simpa [conditionOutcome] using h
    split <;> simp [hnone]

theorem ite_singleton_eq_nil {α : Type} {p : Prop} [Decidable p] {a : α} :
    (if p then [a] else []) = [] ↔ ¬ p := by
  split <;> simp_all

theorem conditionReasons_eq_nil_iff (name : String) (c : StoredCondition) :
    conditionReasons name (conditionOutcome ctx c) = [] ↔ ConditionClear ctx c := by
  have hstatus : ∀ status : EvaluationOutcomeStatus,
      (status ≠ .satisfied ∧ ¬ status.unevaluated = true) ↔ status = .unsatisfied := by
    intro status
    cases status <;> decide
  unfold conditionReasons
  rw [List.append_eq_nil_iff, List.append_eq_nil_iff, ite_singleton_eq_nil, ite_singleton_eq_nil,
    ite_singleton_eq_nil]
  constructor
  · rintro ⟨⟨hveto, hrequired⟩, hruled⟩
    refine ⟨fun hc => (hstatus _).mp ⟨fun hs => hveto ⟨hc, hs⟩, fun hs => hruled ⟨hc, hs⟩⟩, ?_⟩
    intro hc
    exact Bool.eq_false_iff.mpr fun hs => hrequired ⟨hc, hs⟩
  · rintro ⟨hruled, hrequired⟩
    refine ⟨⟨fun h => ((hstatus _).mpr (hruled h.1)).1 h.2, fun h => ?_⟩,
      fun h => ((hstatus _).mpr (hruled h.1)).2 h.2⟩
    exact absurd h.2 (Bool.eq_false_iff.mp (hrequired h.1))

theorem groupReasons_eq_nil_iff (group : RuleGroup) :
    groupReasons (groupOutcome ctx group) = [] ↔ GroupClear ctx group := by
  have hown : (groupOutcome ctx group).relevance = .pass ↔ group.Gates :=
    groupRelevance_iff ctx group.conditions
  have hholds : (groupOutcome ctx group).satisfied = false ↔
      ¬ GroupHolds ctx group.logic group.conditions := by
    rw [← groupSatisfied_iff, Bool.not_eq_true]
    rfl
  have hmembers : (groupOutcome ctx group).conditions.flatMap
      (conditionReasons (groupOutcome ctx group).name) = [] ↔
      ∀ c ∈ group.conditions, ConditionClear ctx c := by
    simp [groupOutcome, conditionReasons_eq_nil_iff]
  unfold groupReasons
  rw [List.append_eq_nil_iff, hmembers, ite_singleton_eq_nil, hown, hholds, not_and_not_right]
  exact ⟨fun ⟨h, hc⟩ => ⟨h, hc⟩, fun ⟨h, hc⟩ => ⟨h, hc⟩⟩

theorem sessionReasons_eq_nil_iff (sf : SessionFilterOutcome) :
    sessionReasons sf = [] ↔ sf.status = .satisfied := by
  simp [sessionReasons]

/-- **When a direction passes.** -/
theorem direction_passed_iff (config : VersionConfig) (unresolved : Bool) :
    (evaluateDirection config ctx unresolved).passed = true ↔
      unresolved = false ∧ (∀ group ∈ config.ruleGroups, GroupClear ctx group) ∧
        ∀ sf ∈ config.sessionFilters,
          (sessionFilterOutcome ctx.closed.setup sf).status = .satisfied := by
  simp only [evaluateDirection, List.isEmpty_iff, List.append_eq_nil_iff, List.flatMap_eq_nil_iff,
    List.forall_mem_map, groupReasons_eq_nil_iff, sessionReasons_eq_nil_iff, ite_eq_right_iff,
    List.cons_ne_nil, imp_false, Bool.not_eq_true, and_assoc]

end Passing

/-! ## Removing a condition -/

def RuleGroup.remove (group : RuleGroup) (j : ℕ) : RuleGroup :=
  { group with conditions := group.conditions.eraseIdx j }

/-- The configuration without condition `j` of group `i`. -/
def VersionConfig.remove (config : VersionConfig) (i j : ℕ) : VersionConfig :=
  { config with ruleGroups := config.ruleGroups.modify i (fun group => group.remove j) }

/-- The context of one direction of an evaluation. -/
def directionContext (risk : VersionRisk) (timeframes : StrategyTimeframes) (candles : CandleSet)
    (asOfMs : ℤ) (pipSize : Option JsNumber) (direction : Direction) : DirectionContext :=
  let closed := closedSet timeframes candles asOfMs
  ⟨direction, risk, closed, deriveCandidate risk closed.setup pipSize direction⟩

def EvaluationResult.of (result : EvaluationResult) : Direction → DirectionOutcome
  | .long => result.long
  | .short => result.short

theorem evaluate_ok {config : VersionConfig} {candles : CandleSet} {asOfMs : ℤ}
    {pipSize : Option JsNumber} {timeframes : StrategyTimeframes} {risk : VersionRisk}
    {r : EvaluationResult} (htimeframes : config.timeframes = some timeframes)
    (hrisk : config.risk = some risk) (h : evaluate config candles asOfMs pipSize = .ok r)
    (direction : Direction) :
    r.of direction = evaluateDirection config
      (directionContext risk timeframes candles asOfMs pipSize direction)
      (pipBufferUnresolved risk pipSize) := by
  unfold evaluate at h
  rw [htimeframes, hrisk] at h
  cases h
  cases direction <;> rfl

/-- Condition `j` tips its group: a gating group that holds only without it, or only with it. -/
def TipsGroup (ctx : DirectionContext) (group : RuleGroup) (j : ℕ) (c : StoredCondition) : Prop :=
  group.Gates ∧
    match group.logic with
    | .and => conditionStatus ctx c ≠ .satisfied ∧
        ∀ other ∈ group.conditions.eraseIdx j, conditionStatus ctx other = .satisfied
    | .or => conditionStatus ctx c = .satisfied ∧
        ∀ other ∈ group.conditions.eraseIdx j, conditionStatus ctx other ≠ .satisfied

/-- Nothing but group `i`'s own satisfaction speaks against the direction. -/
structure OtherwiseClear (config : VersionConfig) (ctx : DirectionContext) (unresolved : Bool)
    (i : ℕ) (group : RuleGroup) : Prop where
  resolved : unresolved = false
  others : ∀ g ∈ config.ruleGroups.eraseIdx i, GroupClear ctx g
  members : ∀ c ∈ group.conditions, ConditionClear ctx c
  sessions : ∀ sf ∈ config.sessionFilters,
    (sessionFilterOutcome ctx.closed.setup sf).status = .satisfied

theorem mem_iff_eraseIdx {α : Type} {l : List α} {i : ℕ} {a : α} (h : l[i]? = some a)
    {p : α → Prop} : (∀ x ∈ l, p x) ↔ p a ∧ ∀ x ∈ l.eraseIdx i, p x := by
  obtain ⟨hi, rfl⟩ := List.getElem?_eq_some_iff.mp h
  have hsplit : l = l.take i ++ l[i] :: l.drop (i + 1) := by simp
  rw [List.eraseIdx_eq_take_drop_succ]
  constructor
  · intro hl
    refine ⟨hl _ (List.getElem_mem hi), fun x hx => hl x ?_⟩
    rcases List.mem_append.mp hx with hx | hx
    · exact List.mem_of_mem_take hx
    · exact List.mem_of_mem_drop hx
  · rintro ⟨ha, hrest⟩ x hx
    rw [hsplit] at hx
    rcases List.mem_append.mp hx with hx | hx
    · exact hrest x (List.mem_append_left _ hx)
    · rcases List.mem_cons.mp hx with rfl | hx
      · exact ha
      · exact hrest x (List.mem_append_right _ hx)

section Removal

variable {config : VersionConfig} {ctx : DirectionContext} {unresolved : Bool} {i j : ℕ}
  {group : RuleGroup} {c : StoredCondition}

theorem remove_groups (hgroup : config.ruleGroups[i]? = some group) (p : RuleGroup → Prop) :
    (∀ g ∈ (config.remove i j).ruleGroups, p g) ↔
      p (group.remove j) ∧ ∀ g ∈ config.ruleGroups.eraseIdx i, p g := by
  obtain ⟨hi, rfl⟩ := List.getElem?_eq_some_iff.mp hgroup
  have hget : (config.remove i j).ruleGroups[i]? = some (config.ruleGroups[i].remove j) := by
    simp [VersionConfig.remove, hi]
  have herase : (config.remove i j).ruleGroups.eraseIdx i = config.ruleGroups.eraseIdx i := by
    refine List.ext_getElem? fun k => ?_
    simp only [VersionConfig.remove, List.getElem?_eraseIdx, List.getElem?_modify]
    split
    · rename_i hk
      simp [show ¬ i = k by omega]
    · rename_i hk
      simp [show ¬ i = k + 1 by omega]
  rw [mem_iff_eraseIdx hget, herase]

theorem passed_iff_group (hgroup : config.ruleGroups[i]? = some group) :
    (evaluateDirection config ctx unresolved).passed = true ↔
      OtherwiseClear config ctx unresolved i group ∧
        (group.Gates → GroupHolds ctx group.logic group.conditions) := by
  rw [direction_passed_iff, mem_iff_eraseIdx hgroup]
  constructor
  · rintro ⟨hresolved, ⟨hclear, hothers⟩, hsessions⟩
    exact ⟨⟨hresolved, hothers, hclear.conditions, hsessions⟩, hclear.holds⟩
  · rintro ⟨⟨hresolved, hothers, hmembers, hsessions⟩, hholds⟩
    exact ⟨hresolved, ⟨⟨hholds, hmembers⟩, hothers⟩, hsessions⟩

theorem remove_gates (hc : group.conditions[j]? = some c) (hgates : c.classification.gates = false) :
    (group.remove j).Gates ↔ group.Gates := by
  have h := mem_iff_eraseIdx hc (p := fun c => ¬ c.classification.gates = true)
  simp only [hgates, Bool.false_eq_true, not_false_eq_true, true_and] at h
  unfold RuleGroup.Gates
  constructor
  · rintro ⟨x, hx, hg⟩
    exact ⟨x, List.mem_of_mem_eraseIdx hx, hg⟩
  · rintro ⟨x, hx, hg⟩
    by_contra hnone
    push Not at hnone
    exact h.mpr hnone x hx hg

theorem passed_remove_iff (hgroup : config.ruleGroups[i]? = some group)
    (hc : group.conditions[j]? = some c) (hgates : c.classification.gates = false)
    (hclear : ConditionClear ctx c) :
    (evaluateDirection (config.remove i j) ctx unresolved).passed = true ↔
      OtherwiseClear config ctx unresolved i group ∧
        (group.Gates → GroupHolds ctx group.logic (group.conditions.eraseIdx j)) := by
  have hmembers : (∀ x ∈ group.conditions, ConditionClear ctx x) ↔
      ∀ x ∈ (group.remove j).conditions, ConditionClear ctx x := by
    rw [mem_iff_eraseIdx hc, and_iff_right hclear]
    rfl
  rw [direction_passed_iff, remove_groups hgroup]
  constructor
  · rintro ⟨hresolved, ⟨hgroup', hothers⟩, hsessions⟩
    refine ⟨⟨hresolved, hothers, hmembers.mpr hgroup'.conditions, hsessions⟩, fun hg => ?_⟩
    exact hgroup'.holds ((remove_gates hc hgates).mpr hg)
  · rintro ⟨⟨hresolved, hothers, hall, hsessions⟩, hholds⟩
    refine ⟨hresolved, ⟨⟨fun hg => ?_, hmembers.mp hall⟩, hothers⟩, hsessions⟩
    exact hholds ((remove_gates hc hgates).mp hg)

theorem groupHolds_erase_iff (hc : group.conditions[j]? = some c)
    (hdisqualifying : group.Gates) :
    (GroupHolds ctx group.logic group.conditions ↔
      GroupHolds ctx group.logic (group.conditions.eraseIdx j)) ↔ ¬ TipsGroup ctx group j c := by
  unfold TipsGroup GroupHolds
  cases group.logic with
  | and =>
    simp only [mem_iff_eraseIdx hc, hdisqualifying, true_and]
    tauto
  | or =>
    have h := mem_iff_eraseIdx hc (p := fun x => ¬ conditionStatus ctx x = .satisfied)
    have hex : (∃ x ∈ group.conditions, conditionStatus ctx x = .satisfied) ↔
        conditionStatus ctx c = .satisfied ∨
          ∃ x ∈ group.conditions.eraseIdx j, conditionStatus ctx x = .satisfied := by
      rw [← not_iff_not]
      push Not
      exact h
    have hnone : (∀ x ∈ group.conditions.eraseIdx j, conditionStatus ctx x ≠ .satisfied) ↔
        ¬ ∃ x ∈ group.conditions.eraseIdx j, conditionStatus ctx x = .satisfied := by
      push Not
      rfl
    simp only [hex, hdisqualifying, true_and, hnone]
    by_cases hrest : ∃ x ∈ group.conditions.eraseIdx j, conditionStatus ctx x = .satisfied
    · simp [hrest]
    · simp [hrest]

end Removal

/-- **Exactly when a classification does not gate.**  An optional condition, or a disqualifying one
that was found unsatisfied, leaves the verdict alone unless it tips a gating group that alone decides
the direction. -/
theorem removal_keeps_verdict_iff (config : VersionConfig) (candles : CandleSet) (asOfMs : ℤ)
    (pipSize : Option JsNumber) (timeframes : StrategyTimeframes) (risk : VersionRisk)
    (htimeframes : config.timeframes = some timeframes) (hrisk : config.risk = some risk)
    (i j : ℕ) (group : RuleGroup) (c : StoredCondition)
    (hgroup : config.ruleGroups[i]? = some group) (hc : group.conditions[j]? = some c)
    (r r' : EvaluationResult) (hr : evaluate config candles asOfMs pipSize = .ok r)
    (hr' : evaluate (config.remove i j) candles asOfMs pipSize = .ok r') (direction : Direction)
    (hclass : c.classification = .optional ∨ (c.classification = .disqualifying ∧
      conditionStatus (directionContext risk timeframes candles asOfMs pipSize direction) c =
        .unsatisfied)) :
    (r'.of direction).passed = (r.of direction).passed ↔
      ¬ (TipsGroup (directionContext risk timeframes candles asOfMs pipSize direction) group j c ∧
        OtherwiseClear config (directionContext risk timeframes candles asOfMs pipSize direction)
          (pipBufferUnresolved risk pipSize) i group) := by
  set ctx := directionContext risk timeframes candles asOfMs pipSize direction with hctx
  have hgates : c.classification.gates = false := by
    rcases hclass with h | ⟨h, -⟩ <;> rw [h] <;> rfl
  have hclear : ConditionClear ctx c := by
    refine ⟨fun hd => ?_, fun hg => ?_⟩
    · rcases hclass with h | ⟨-, hstatus⟩
      · rw [h] at hd
        cases hd
      · exact hstatus
    · rw [hgates] at hg
      cases hg
  have hremoved : (config.remove i j).timeframes = some timeframes ∧
      (config.remove i j).risk = some risk := ⟨htimeframes, hrisk⟩
  rw [evaluate_ok htimeframes hrisk hr direction,
    evaluate_ok hremoved.1 hremoved.2 hr' direction, Bool.eq_iff_iff,
    passed_remove_iff hgroup hc hgates hclear, passed_iff_group hgroup, ← hctx]
  by_cases hother : OtherwiseClear config ctx (pipBufferUnresolved risk pipSize) i group
  · by_cases hg : group.Gates
    · simp only [hother, hg, true_and, forall_const, and_true]
      rw [← groupHolds_erase_iff hc hg]
      exact iff_comm
    · simp [hother, hg, TipsGroup]
  · simp [hother]

/-! ## A group that an optional condition tips -/

/-- A session requirement in UTC. -/
def sampleSessionCondition (classification : ConditionClassification) (session : String) :
    StoredCondition where
  conditionType := "session_requirement"
  classification := classification
  timeframeRole := .any
  params := [("sessions", .array [.string session]), ("mode", .string "include"),
    ("timezone", .string "utc"), ("anchorOffsetCandles", .number (.fin 0))]

/-- The risk section of the sample configuration. -/
def sampleSessionRisk : VersionRisk := ⟨2, .structure, 1, .pct, .rr, 1, 2, 3, 65⟩

/-- One AND group of a required and an optional session condition. -/
def sampleSessionConfig (optional : String) : VersionConfig where
  timeframes := some ⟨.h4, .h1, .m15⟩
  marketScope := some .all
  sessionFilters := []
  risk := some sampleSessionRisk
  ruleGroups := [⟨"sessions", .and,
    [sampleSessionCondition .required "asia", sampleSessionCondition .optional optional]⟩]

/-- One setup candle that opened at 01:00 UTC. -/
def sampleSessionCandles : CandleSet :=
  ⟨[], [⟨3600000, .fin 1, .fin 2, .fin 1, .fin 2, none⟩], []⟩

/-- Removing the satisfied optional condition leaves the verdict alone. -/
theorem removal_keeps_verdict_sydney :
    ∃ r r', evaluate (sampleSessionConfig "sydney") sampleSessionCandles 7200000 none = .ok r ∧
      evaluate ((sampleSessionConfig "sydney").remove 0 1) sampleSessionCandles 7200000 none =
        .ok r' ∧
      ((r'.of .long).passed = (r.of .long).passed ↔
        ¬ (TipsGroup (directionContext sampleSessionRisk ⟨.h4, .h1, .m15⟩ sampleSessionCandles
            7200000 none .long)
            ⟨"sessions", .and, [sampleSessionCondition .required "asia",
              sampleSessionCondition .optional "sydney"]⟩ 1
            (sampleSessionCondition .optional "sydney") ∧
          OtherwiseClear (sampleSessionConfig "sydney")
            (directionContext sampleSessionRisk ⟨.h4, .h1, .m15⟩ sampleSessionCandles 7200000 none
              .long)
            (pipBufferUnresolved sampleSessionRisk none) 0
            ⟨"sessions", .and, [sampleSessionCondition .required "asia",
              sampleSessionCondition .optional "sydney"]⟩)) :=
  ⟨_, _, rfl, rfl, removal_keeps_verdict_iff (sampleSessionConfig "sydney") sampleSessionCandles
    7200000 none ⟨.h4, .h1, .m15⟩ sampleSessionRisk rfl rfl 0 1 _ _ rfl rfl _ _ rfl rfl .long
    (.inl rfl)⟩

/-- The direction fails only because of the optional condition: without it, it passes. -/
theorem optional_condition_gates :
    (sampleSessionConfig "new_york").ruleGroups[0]?.bind (·.conditions[1]?) =
      some (sampleSessionCondition .optional "new_york") ∧
    (evaluate (sampleSessionConfig "new_york") sampleSessionCandles 7200000 none).map
      (·.long.passed) = .ok false ∧
    (evaluate ((sampleSessionConfig "new_york").remove 0 1) sampleSessionCandles 7200000 none).map
      (·.long.passed) = .ok true := by
  refine ⟨rfl, ?_, ?_⟩ <;> decide

end VeltrixEye
