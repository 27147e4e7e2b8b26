import VeltrixEye.Strategies.Engine
import VeltrixEye.Setups.Lifecycle

/-!
# The setup-quality scoring engine (`scoring/engine.ts`)

`scoreSetupQuality` turns one direction evaluation into seven weighted components and a total.  The
explanations are texts over the same counts and are not modelled.
-/

namespace VeltrixEye.Scoring

/-! ## Grades -/

def QUALITY_GRADE_BANDS : List (Setups.ScoreGrade × ℤ) :=
  [(.«A+», 90), (.A, 85), (.B, 75), (.C, 65), (.ignore, 0)]

def qualityGrade (score : ℤ) : Setups.ScoreGrade :=
  let clamped := max 0 (min 100 score)
  match QUALITY_GRADE_BANDS.find? (fun band => band.2 ≤ clamped) with
  | some band => band.1
  | none => .ignore

/-! ## Components -/

inductive M5ComponentName where
  | required_conditions
  | confirmation_conditions
  | disqualifier_clearance
  | optional_support
  | directional_alignment
  | setup_completeness
  | data_sufficiency

def M5_COMPONENT_WEIGHTS : M5ComponentName → ℕ
  | .required_conditions => 25
  | .confirmation_conditions => 15
  | .disqualifier_clearance => 20
  | .optional_support => 15
  | .directional_alignment => 10
  | .setup_completeness => 10
  | .data_sufficiency => 5

def M5_FAILING_DIRECTION_CAP : ℤ := 64

/-- `ScoreComponent` without the explanation. -/
structure ScoreComponent where
  name : M5ComponentName
  label : String
  weight : ℕ
  score : ℚ
  points : ℚ
  maxPoints : ℕ

/-- Two decimals; an exact half goes up. -/
def round2 (value : ℚ) : ℚ := round (value * 100) / 100

def component (name : M5ComponentName) (label : String) (weight : ℕ) (fraction : ℚ) : ScoreComponent :=
  let clamped := max 0 (min 1 fraction)
  { name, label, weight
    score := round2 (clamped * 100)
    points := round2 (weight * clamped)
    maxPoints := weight }

/-! ## Scoring units -/

/-- The units of one group: one for each matching condition, one in total for an OR group.  A unit is
    its `satisfied`. -/
def groupUnits (keep : ConditionOutcome → Bool) (group : GroupOutcome) : List Bool :=
  let members := group.conditions.filter keep
  if members.isEmpty then []
  else
    match group.logic with
    | .or => [members.any (fun c => c.status = .satisfied)]
    | .and => members.map (fun c => decide (c.status = .satisfied))

def scoringUnits (groups : List GroupOutcome) (keep : ConditionOutcome → Bool) : List Bool :=
  groups.flatMap (groupUnits keep)

/-- The share of the items for which `ok` holds, `vacuous` of no items. -/
def share {α : Type} (vacuous : ℚ) (items : List α) (ok : α → Bool) : ℚ :=
  if items.isEmpty then vacuous else ((items.filter ok).length : ℚ) / items.length

/-- `required_conditions` and `confirmation_conditions`: no unit is full marks. -/
def gateComponent (name : M5ComponentName) (label : String) (weight : ℕ) (units : List Bool) :
    ScoreComponent :=
  component name label weight (share 1 units id)

/-- A disqualifier is cleared when it is unsatisfied. -/
def clearanceComponent (weight : ℕ) (declared : List ConditionOutcome) : ScoreComponent :=
  component .disqualifier_clearance "Disqualifying-condition clearance" weight
    (share 1 declared fun c => c.status = .unsatisfied)

def evidenceComponent (name : M5ComponentName) (label : String) (weight : ℕ) (units : List Bool) :
    ScoreComponent :=
  component name label weight (share 0 units id)

def alignmentComponent (weight : ℕ) (units : List Bool) : ScoreComponent :=
  component .directional_alignment "Directional alignment (HTF)" weight (share 0 units id)

/-! ## The context -/

structure M5ScoringContext where
  evaluation : DirectionOutcome
  minRr : ℚ
  takeProfitMethod : TakeProfitMethod
  asOfMs : ℤ

/-- The targets the method derives were derived. -/
def targetsDerived (takeProfitMethod : TakeProfitMethod) (candidate : Option CandidateTrade) : Bool :=
  if takeProfitMethod = .structure then candidate.any (fun c => c.tp1Price.isSome)
  else candidate.any (fun c => c.tp1Price.isSome && c.tp2Price.isSome && c.tp3Price.isSome)

/-- `achievable R:R meets the configured minimum`. -/
def achievableMeets (candidate : Option CandidateTrade) (minRr : ℚ) : Bool :=
  candidate.any fun c => c.achievableRr.any fun rr => JsNumber.le (.fin minRr) rr

/-- The checks of the completeness component, in order. -/
def completenessChecks (context : M5ScoringContext) : List Bool :=
  let candidate := context.evaluation.candidate
  [candidate.isSome, targetsDerived context.takeProfitMethod candidate,
    achievableMeets candidate context.minRr,
    context.evaluation.sessionFilters.all (fun sf => sf.status = .satisfied)]

def completenessComponent (weight : ℕ) (context : M5ScoringContext) : ScoreComponent :=
  let checks := completenessChecks context
  component .setup_completeness "Setup completeness" weight
    (((checks.filter id).length : ℚ) / checks.length)

/-- `satisfied` or `unsatisfied`. -/
def evaluable (status : EvaluationOutcomeStatus) : Bool := status = .satisfied || status = .unsatisfied

def dataSufficiencyComponent (weight : ℕ) (conditions : List ConditionOutcome)
    (sessionFilters : List SessionFilterOutcome) : ScoreComponent :=
  let declared := conditions.length + sessionFilters.length
  let counted := (conditions.filter fun c => evaluable c.status).length +
    (sessionFilters.filter fun sf => evaluable sf.status).length
  component .data_sufficiency "Data sufficiency" weight
    (if declared = 0 then 0 else (counted : ℚ) / declared)

/-! ## The score -/

structure SetupQualityScore where
  total : ℤ
  grade : Setups.ScoreGrade
  components : List ScoreComponent
  engineVersion : String
  generatedAt : ℤ

/-- The seven components, in order. -/
def scoreComponents (context : M5ScoringContext) : List ScoreComponent :=
  let groups := context.evaluation.groups
  let conditions := groups.flatMap (·.conditions)
  [gateComponent .required_conditions "Required condition strength"
      (M5_COMPONENT_WEIGHTS .required_conditions)
      (scoringUnits groups fun c => c.classification = .required),
    gateComponent .confirmation_conditions "Confirmation condition strength"
      (M5_COMPONENT_WEIGHTS .confirmation_conditions)
      (scoringUnits groups fun c => c.classification = .confirmation),
    clearanceComponent (M5_COMPONENT_WEIGHTS .disqualifier_clearance)
      (conditions.filter fun c => c.classification = .disqualifying),
    evidenceComponent .optional_support "Optional condition support"
      (M5_COMPONENT_WEIGHTS .optional_support)
      (scoringUnits groups fun c => c.classification = .optional),
    alignmentComponent (M5_COMPONENT_WEIGHTS .directional_alignment)
      (scoringUnits groups fun c =>
        c.timeframeRole = .role .htf_bias && c.classification ≠ .disqualifying),
    completenessComponent (M5_COMPONENT_WEIGHTS .setup_completeness) context,
    dataSufficiencyComponent (M5_COMPONENT_WEIGHTS .data_sufficiency) conditions
      context.evaluation.sessionFilters]

def scoreSetupQuality (context : M5ScoringContext) : SetupQualityScore :=
  let components := scoreComponents context
  let pointsTotal := (components.map (·.points)).sum
  let rounded := max 0 (min 100 (round pointsTotal))
  let total := if context.evaluation.passed then rounded else min rounded M5_FAILING_DIRECTION_CAP
  { total
    grade := qualityGrade total
    components
    engineVersion := Setups.M5_SCORE_ENGINE_VERSION
    generatedAt := context.asOfMs }

end VeltrixEye.Scoring
