import VeltrixEye.Lib.Uuid
import VeltrixEye.Strategies.Windows

/-!
# Strategy versions and their rows (`migrations/0003`, `0004`, `0005`, `0007`, `strategies/strategies.ts`)

The nine tables of a version, one row-level statement at a time.  A statement is accepted when the
trigger of its table lets it through and the constraints hold of the result; otherwise it changes
nothing.

References from other tables to a version only refuse further statements and are left out.
-/

namespace VeltrixEye.Versions

/-! ## Rows -/

/-- `strategy_versions`. -/
structure VersionRow where
  id : Uuid
  strategyId : Uuid
  versionNumber : ℤ
  status : VersionStatus
  changelog : Option String
  createdBy : Option Uuid
  createdAt : ℤ
  publishedAt : Option ℤ
  deriving DecidableEq

inductive ScopeMode where
  | all
  | instruments

inductive FilterType where
  | news
  | volatility
  | spread
  deriving DecidableEq

/-- The columns of a configuration row but its `version_id`, for each of the six flat tables. -/
inductive ConfigContent where
  | timeframe (role : TimeframeRole) (timeframe : Timeframe)
  | marketScope (mode : ScopeMode) (createdAt : ℤ)
  | scopeInstrument (instrumentId : Uuid)
  | sessionFilter (id : Uuid) (filter : SessionFilter)
  | riskConfig (risk : VersionRisk)
  | filter (id : Uuid) (filterType : FilterType) (enabled : Bool) (params : List (String × JsValue))
      (position : ℤ)

/-- What a flat table keeps unique for a version. -/
inductive ConfigKey where
  | timeframe (role : TimeframeRole)
  | marketScope
  | scopeInstrument (instrumentId : Uuid)
  | sessionFilter (session : SessionName)
  | riskConfig
  | filter (filterType : FilterType)
  deriving DecidableEq

inductive ConfigTable where
  | timeframes
  | marketScopes
  | scopeInstruments
  | sessionFilters
  | riskConfig
  | filters
  deriving DecidableEq

def ConfigContent.key : ConfigContent → ConfigKey
  | timeframe role _ => .timeframe role
  | marketScope _ _ => .marketScope
  | scopeInstrument instrumentId => .scopeInstrument instrumentId
  | sessionFilter _ sessions => .sessionFilter sessions.session
  | riskConfig _ => .riskConfig
  | filter _ filterType _ _ _ => .filter filterType

def ConfigKey.table : ConfigKey → ConfigTable
  | timeframe _ => .timeframes
  | marketScope => .marketScopes
  | scopeInstrument _ => .scopeInstruments
  | sessionFilter _ => .sessionFilters
  | riskConfig => .riskConfig
  | filter _ => .filters

/-- The surrogate primary key of the tables that have one. -/
def ConfigContent.id? : ConfigContent → Option Uuid
  | sessionFilter id _ => some id
  | filter id _ _ _ _ => some id
  | _ => none

structure ConfigRow where
  versionId : Uuid
  content : ConfigContent

/-- `strategy_rule_groups`. -/
structure GroupRow where
  id : Uuid
  versionId : Uuid
  parentGroupId : Option Uuid
  name : String
  logic : GroupLogic
  position : ℤ

/-- `strategy_conditions`. -/
structure ConditionRow where
  id : Uuid
  groupId : Uuid
  condition : StoredCondition
  description : Option String
  position : ℤ

/-- The nine tables. -/
structure VersionTables where
  versions : List VersionRow
  configs : List ConfigRow
  groups : List GroupRow
  conditions : List ConditionRow

/-- The rows of other tables that foreign keys refer to. -/
structure References where
  strategies : Uuid → Bool
  users : Uuid → Bool
  instruments : Uuid → Option Instrument

namespace VersionTables

variable (d : VersionTables)

def version? (id : Uuid) : Option VersionRow := d.versions.find? fun r => r.id = id

def group? (id : Uuid) : Option GroupRow := d.groups.find? fun g => g.id = id

/-! ## Triggers -/

/-- `version_config_guard`; a version that is not there is mid-cascade. -/
def versionConfigGuard (versionId : Uuid) : Bool :=
  match d.version? versionId with
  | none => true
  | some version => version.status = .draft

/-- `condition_group_guard`. -/
def conditionGroupGuard (groupId : Uuid) : Bool :=
  match d.group? groupId with
  | none => true
  | some group => d.versionConfigGuard group.versionId

end VersionTables

/-- `strategy_version_guard` on UPDATE. -/
def strategyVersionGuard (old new : VersionRow) : Bool :=
  old.status = .draft ||
    (old.status = .published && new.status = .deprecated && new.strategyId = old.strategyId &&
      new.versionNumber = old.versionNumber && new.changelog = old.changelog &&
      new.createdBy = old.createdBy && new.publishedAt = old.publishedAt)

/-! ## Constraints -/

section Constraints

variable (ref : References)

/-- The checks and foreign keys of a version, and its unique indexes among the other versions. -/
def VersionRow.fits (others : List VersionRow) (row : VersionRow) : Bool :=
  decide (0 < row.versionNumber) && row.changelog.all (fun text => text.length ≤ 500) &&
    (decide (row.status = .draft) == row.publishedAt.isNone) &&
    ref.strategies row.strategyId && row.createdBy.all ref.users &&
    others.all fun other =>
      decide (other.id ≠ row.id) &&
        !decide (other.strategyId = row.strategyId ∧ other.versionNumber = row.versionNumber) &&
        !decide (other.strategyId = row.strategyId ∧ other.status = .draft ∧ row.status = .draft)

def riskInRange (risk : VersionRisk) : Bool :=
  0 < risk.minRr && risk.minRr ≤ 100 && 0 ≤ risk.stopLossBuffer && risk.stopLossBuffer ≤ 10000 &&
    0 < risk.tp1Rr && 0 < risk.tp2Rr && 0 < risk.tp3Rr && risk.tp1Rr < risk.tp2Rr &&
    risk.tp2Rr < risk.tp3Rr && risk.minQualityScore ≤ 100

/-- The checks and the foreign key of the columns of a flat table. -/
def ConfigContent.inRange : ConfigContent → Bool
  | timeframe _ _ => true
  | marketScope _ _ => true
  | scopeInstrument instrumentId => (ref.instruments instrumentId).isSome
  | sessionFilter _ _ => true
  | riskConfig risk => riskInRange risk
  | filter _ _ _ _ position => 0 ≤ position

/-- The constraints of a configuration row among the other rows of its table. -/
def ConfigRow.fits (d : VersionTables) (others : List ConfigRow) (row : ConfigRow) : Bool :=
  (d.version? row.versionId).isSome && row.content.inRange ref &&
    others.all fun other =>
      !decide (other.versionId = row.versionId ∧ other.content.key = row.content.key) &&
        !(decide (other.content.key.table = row.content.key.table) && row.content.id?.isSome &&
          decide (other.content.id? = row.content.id?))

/-- The constraints of a group among the other groups; a group may be its own parent. -/
def GroupRow.fits (d : VersionTables) (others : List GroupRow) (row : GroupRow) : Bool :=
  (d.version? row.versionId).isSome &&
    row.parentGroupId.all (fun parent =>
      decide (parent = row.id) || others.any fun other => other.id = parent) &&
    (1 ≤ row.name.length && row.name.length ≤ 80) &&
    (decide (0 ≤ row.position) && decide (row.position ≤ 10000)) &&
    others.all fun other =>
      decide (other.id ≠ row.id) &&
        !decide (other.parentGroupId = none ∧ row.parentGroupId = none ∧
          other.versionId = row.versionId ∧ other.position = row.position)

/-- The constraints of a condition among the other conditions. -/
def ConditionRow.fits (d : VersionTables) (others : List ConditionRow) (row : ConditionRow) : Bool :=
  (d.group? row.groupId).isSome &&
    (1 ≤ row.condition.conditionType.length && row.condition.conditionType.length ≤ 64) &&
    row.description.all (fun text => text.length ≤ 280) &&
    (decide (0 ≤ row.position) && decide (row.position ≤ 10000)) &&
    others.all fun other =>
      decide (other.id ≠ row.id) &&
        !decide (other.groupId = row.groupId ∧ other.position = row.position)

end Constraints

/-! ## Statements -/

namespace VersionTables

variable (d : VersionTables)

def groupsAmong (ids : List Uuid) : List GroupRow := d.groups.filter fun g => g.id ∈ ids

/-- The groups that name one of these as parent. -/
def childGroups (ids : List Uuid) : List Uuid :=
  (d.groups.filter fun g => g.parentGroupId.any (· ∈ ids)).map GroupRow.id

def withoutGroups (ids : List Uuid) : VersionTables :=
  { d with
    groups := d.groups.filter fun g => g.id ∉ ids
    conditions := d.conditions.filter fun c => c.groupId ∉ ids }

variable {d}

theorem withoutGroups_length {ids : List Uuid} (h : d.groupsAmong ids ≠ []) :
    (d.withoutGroups ids).groups.length < d.groups.length := by
  obtain ⟨g, hg⟩ := List.exists_mem_of_ne_nil _ h
  obtain ⟨hmem, hid⟩ := List.mem_filter.mp hg
  refine lt_of_le_of_ne (List.length_filter_le _ _) ?_
  intro hlen
  have hkept := List.length_filter_eq_length_iff.mp hlen g hmem
  simp only [decide_eq_true_eq] at hid hkept
  exact hkept hid

end VersionTables

/-- The deletion of groups: the groups that name a deleted group as parent go with it, and so do its
    conditions; `none` when the guard of one of the groups refuses. -/
def deleteGroups (d : VersionTables) (ids : List Uuid) : Option VersionTables :=
  if _h : d.groupsAmong ids = [] then some d
  else if (d.groupsAmong ids).all fun g => d.versionConfigGuard g.versionId then
    deleteGroups (d.withoutGroups ids) (d.childGroups ids)
  else none
termination_by d.groups.length
decreasing_by exact VersionTables.withoutGroups_length _h

inductive RowOp where
  | insertVersion (row : VersionRow)
  | updateVersion (id : Uuid) (row : VersionRow)
  | deleteVersion (id : Uuid)
  | insertConfig (row : ConfigRow)
  | updateConfig (versionId : Uuid) (key : ConfigKey) (row : ConfigRow)
  | deleteConfig (versionId : Uuid) (key : ConfigKey)
  | insertGroup (row : GroupRow)
  | updateGroup (id : Uuid) (row : GroupRow)
  | deleteGroup (id : Uuid)
  | insertCondition (row : ConditionRow)
  | updateCondition (id : Uuid) (row : ConditionRow)
  | deleteCondition (id : Uuid)

section Step

variable (ref : References)

/-- The tables after a statement that finds its row; `none` when it is refused or finds none. -/
def applyOp (d : VersionTables) : RowOp → Option VersionTables
  | .insertVersion row =>
    if row.fits ref d.versions then some { d with versions := d.versions ++ [row] } else none
  | .updateVersion id row => do
    let old ← d.version? id
    -- no configuration row may be left without its version
    let orphans := decide (row.id ≠ id) &&
      ((d.configs.any fun c => c.versionId = id) || d.groups.any fun g => g.versionId = id)
    if strategyVersionGuard old row && row.fits ref (d.versions.filter fun r => r.id ≠ id) && !orphans
    then some { d with versions := d.versions.map fun r => if r.id = id then row else r }
    else none
  | .deleteVersion id => do
    let old ← d.version? id
    if old.status = .draft then
      deleteGroups
        { d with
          versions := d.versions.filter fun r => r.id ≠ id
          configs := d.configs.filter fun c => c.versionId ≠ id }
        ((d.groups.filter fun g => g.versionId = id).map GroupRow.id)
    else none
  | .insertConfig row =>
    if d.versionConfigGuard row.versionId && row.fits ref d d.configs then
      some { d with configs := d.configs ++ [row] }
    else none
  | .updateConfig versionId key row =>
    let here := fun c : ConfigRow => decide (c.versionId = versionId ∧ c.content.key = key)
    if d.configs.any here && decide (row.content.key.table = key.table) &&
        d.versionConfigGuard row.versionId && row.fits ref d (d.configs.filter fun c => !here c) then
      some { d with configs := d.configs.map fun c => if here c then row else c }
    else none
  | .deleteConfig versionId key =>
    let here := fun c : ConfigRow => decide (c.versionId = versionId ∧ c.content.key = key)
    if d.configs.any here && d.versionConfigGuard versionId then
      some { d with configs := d.configs.filter fun c => !here c }
    else none
  | .insertGroup row =>
    if d.versionConfigGuard row.versionId && row.fits d d.groups then
      some { d with groups := d.groups ++ [row] }
    else none
  | .updateGroup id row =>
    -- no child group or condition may be left without its group
    let orphans := decide (row.id ≠ id) &&
      ((d.groups.any fun g => g.id ≠ id ∧ g.parentGroupId = some id) ||
        d.conditions.any fun c => c.groupId = id)
    if (d.group? id).isSome && d.versionConfigGuard row.versionId &&
        row.fits d (d.groups.filter fun g => g.id ≠ id) && !orphans then
      some { d with groups := d.groups.map fun g => if g.id = id then row else g }
    else none
  | .deleteGroup id => do
    let _ ← d.group? id
    deleteGroups d [id]
  | .insertCondition row =>
    if d.conditionGroupGuard row.groupId && row.fits d d.conditions then
      some { d with conditions := d.conditions ++ [row] }
    else none
  | .updateCondition id row =>
    if (d.conditions.any fun c => c.id = id) && d.conditionGroupGuard row.groupId &&
        row.fits d (d.conditions.filter fun c => c.id ≠ id) then
      some { d with conditions := d.conditions.map fun c => if c.id = id then row else c }
    else none
  | .deleteCondition id => do
    let old ← d.conditions.find? fun c => c.id = id
    if d.conditionGroupGuard old.groupId then
      some { d with conditions := d.conditions.filter fun c => c.id ≠ id }
    else none

/-- One statement; a refused one changes nothing. -/
def rowStep (d : VersionTables) (op : RowOp) : VersionTables := (applyOp ref d op).getD d

end Step

/-! ## The configuration of a version -/

/-- The rows that `readVersionConfig` reads. -/
structure VersionRows where
  configs : List ConfigRow
  groups : List GroupRow
  conditions : List ConditionRow

def VersionTables.rowsOf (d : VersionTables) (versionId : Uuid) : VersionRows where
  configs := d.configs.filter fun c => c.versionId = versionId
  groups := d.groups.filter fun g => g.versionId = versionId
  conditions := d.conditions.filter fun c =>
    d.groups.any fun g => g.id = c.groupId ∧ g.versionId = versionId

namespace VersionRows

variable (rows : VersionRows)

def timeframe? (role : TimeframeRole) : Option Timeframe :=
  rows.configs.findSome? fun c =>
    match c.content with
    | .timeframe r timeframe => if r = role then some timeframe else none
    | _ => none

/-- A version has one row for a role at most, so three rows are the three roles. -/
def timeframes : Option StrategyTimeframes := do
  let htf_bias ← rows.timeframe? .htf_bias
  let setup ← rows.timeframe? .setup
  let entry ← rows.timeframe? .entry
  some ⟨htf_bias, setup, entry⟩

def scopeInstruments (instruments : Uuid → Option Instrument) : List Instrument :=
  rows.configs.filterMap fun c =>
    match c.content with
    | .scopeInstrument instrumentId => instruments instrumentId
    | _ => none

def marketScope (instruments : Uuid → Option Instrument) : Option MarketScope :=
  rows.configs.findSome? fun c =>
    match c.content with
    | .marketScope .all _ => some .all
    | .marketScope .instruments _ => some (.instruments (rows.scopeInstruments instruments))
    | _ => none

/-- The session filters in the order of their ids. -/
def sessionFilters : List SessionFilter :=
  let filters := rows.configs.filterMap fun c =>
    match c.content with
    | .sessionFilter id sessions => some (id, sessions)
    | _ => none
  (filters.insertionSort fun a b => a.1.text ≤ b.1.text).map Prod.snd

def risk : Option VersionRisk :=
  rows.configs.findSome? fun c =>
    match c.content with
    | .riskConfig risk => some risk
    | _ => none

/-- A group with its conditions, both in the order of their positions. -/
def ruleGroups : List RuleGroup :=
  (rows.groups.insertionSort fun a b => a.position ≤ b.position).map fun g =>
    { name := g.name
      logic := g.logic
      conditions := ((rows.conditions.filter fun c => c.groupId = g.id).insertionSort
        fun a b => a.position ≤ b.position).map ConditionRow.condition }

end VersionRows

/-- What the evaluation gets of the rows of a version. -/
def readVersionConfig (instruments : Uuid → Option Instrument) (rows : VersionRows) :
    VersionConfig where
  timeframes := rows.timeframes
  marketScope := rows.marketScope instruments
  sessionFilters := rows.sessionFilters
  risk := rows.risk
  ruleGroups := rows.ruleGroups

end VeltrixEye.Versions
