import VeltrixEye.Lib.Rows
import VeltrixEye.Lib.SmallUuid
import VeltrixEye.Strategies.Versions

/-!
# Published versions under row-level statements

Every sequence of accepted statements on the nine tables.

* `Stays` — no row of a version is moved out of it.
-/

namespace VeltrixEye.Versions

/-! ## Rows outside a change -/

section Lists

variable {α : Type} {l : List α} {p : α → Bool} {b : α}

theorem filter_append_other (hb : p b = false) : (l ++ [b]).filter p = l.filter p := by
  simp [List.filter_append, hb]

theorem filter_update_other {q : α → Prop} [DecidablePred q] (hold : ∀ a ∈ l, q a → p a = false)
    (hb : p b = false) :
    (l.map fun a => if q a then b else a).filter p = l.filter p := by
  induction l with
  | nil => rfl
  | cons a l ih =>
    have hrest := ih fun c hc => hold c (List.mem_cons_of_mem _ hc)
    rw [List.map_cons, List.filter_cons, List.filter_cons, hrest]
    by_cases hq : q a
    · have ha := hold a List.mem_cons_self hq
      simp [hq, hb, ha]
    · simp [hq]

theorem filter_remove_other {q : α → Bool} (hkept : ∀ a ∈ l, p a = true → q a = true) :
    (l.filter q).filter p = l.filter p := by
  rw [List.filter_filter]
  apply List.filter_congr
  intro a ha
  by_cases hp : p a = true
  · simp [hp, hkept a ha hp]
  · simp [hp]

theorem nodup_map_replace {β : Type} [DecidableEq β] {f : α → β} {k : β} (h : (l.map f).Nodup)
    (hb : ∀ a ∈ l, f a ≠ k → f a ≠ f b) :
    ((l.map fun a => if f a = k then b else a).map f).Nodup := by
  induction l with
  | nil => exact List.nodup_nil
  | cons a l ih =>
    rw [List.map_cons, List.nodup_cons] at h
    have hrest := ih h.2 fun c hc => hb c (List.mem_cons_of_mem _ hc)
    rw [List.map_cons, List.map_cons, List.nodup_cons]
    refine ⟨?_, hrest⟩
    rw [List.mem_map]
    rintro ⟨x, hx, hxkey⟩
    obtain ⟨c, hc, rfl⟩ := List.mem_map.mp hx
    have hca : f c ≠ f a := by
      intro hsame
      exact h.1 (List.mem_map.mpr ⟨c, hc, hsame⟩)
    by_cases ha : f a = k
    · have hck : f c ≠ k := fun hck => hca (hck.trans ha.symm)
      rw [if_pos ha, if_neg hck] at hxkey
      exact hb c (List.mem_cons_of_mem _ hc) hck hxkey
    · rw [if_neg ha] at hxkey
      by_cases hck : f c = k
      · rw [if_pos hck] at hxkey
        exact hb a List.mem_cons_self ha hxkey.symm
      · rw [if_neg hck] at hxkey
        exact hca hxkey

end Lists

/-! ## Keys and guards -/

/-- The primary keys that the triggers look rows up by. -/
structure Keyed (d : VersionTables) : Prop where
  versions : (d.versions.map VersionRow.id).Nodup
  groups : (d.groups.map GroupRow.id).Nodup
  conditions : (d.conditions.map ConditionRow.id).Nodup

section Guards

variable {d : VersionTables} {row : VersionRow} {versionId : Uuid}

theorem Keyed.version?_eq (h : Keyed d) (hrow : row ∈ d.versions) :
    d.version? row.id = some row := Rows.find?_key h.versions hrow

theorem Keyed.group?_eq (h : Keyed d) {g : GroupRow} (hg : g ∈ d.groups) :
    d.group? g.id = some g := Rows.find?_key h.groups hg

/-- The version is published or deprecated. -/
def Frozen (d : VersionTables) (versionId : Uuid) : Prop :=
  ∃ row, d.version? versionId = some row ∧ row.status ≠ .draft

theorem Keyed.frozen (h : Keyed d) (hrow : row ∈ d.versions) (hstatus : row.status ≠ .draft) :
    Frozen d row.id := ⟨row, h.version?_eq hrow, hstatus⟩

theorem Frozen.ne (h : Frozen d versionId) {other : Uuid}
    (hguard : d.versionConfigGuard other = true) : other ≠ versionId := by
  rintro rfl
  obtain ⟨row, hrow, hstatus⟩ := h
  unfold VersionTables.versionConfigGuard at hguard
  rw [hrow] at hguard
  exact hstatus (by simpa using hguard)

/-- The group is one of the version's. -/
def OfVersion (d : VersionTables) (versionId groupId : Uuid) : Prop :=
  ∃ g ∈ d.groups, g.id = groupId ∧ g.versionId = versionId

theorem Frozen.not_ofVersion (h : Frozen d versionId) (hd : Keyed d) {groupId : Uuid}
    (hguard : d.conditionGroupGuard groupId = true) : ¬ OfVersion d versionId groupId := by
  rintro ⟨g, hg, rfl, hversion⟩
  unfold VersionTables.conditionGroupGuard at hguard
  rw [hd.group?_eq hg] at hguard
  exact h.ne hguard hversion

end Guards

/-! ## The rows of a version -/

section RowsOf

variable {d d' : VersionTables} {versionId : Uuid}

theorem rowsOf_congr
    (hconfigs : d'.configs.filter (fun c => c.versionId = versionId) =
      d.configs.filter fun c => c.versionId = versionId)
    (hgroups : d'.groups.filter (fun g => g.versionId = versionId) =
      d.groups.filter fun g => g.versionId = versionId)
    (hconditions : d'.conditions.filter
        (fun c => d.groups.any fun g => g.id = c.groupId ∧ g.versionId = versionId) =
      d.conditions.filter
        fun c => d.groups.any fun g => g.id = c.groupId ∧ g.versionId = versionId) :
    d'.rowsOf versionId = d.rowsOf versionId := by
  have hany : ∀ c : ConditionRow,
      (d'.groups.any fun g => g.id = c.groupId ∧ g.versionId = versionId) =
        d.groups.any fun g => g.id = c.groupId ∧ g.versionId = versionId := by
    intro c
    have hsplit : ∀ groups : List GroupRow,
        (groups.any fun g => g.id = c.groupId ∧ g.versionId = versionId) =
          (groups.filter fun g => g.versionId = versionId).any fun g => g.id = c.groupId := by
      intro groups
      rw [List.any_filter]
      congr 1
      funext g
      simp [Bool.and_comm]
    rw [hsplit, hsplit, hgroups]
  unfold VersionTables.rowsOf
  rw [hconfigs, hgroups]
  congr 1
  rw [← hconditions]
  congr 1
  funext c
  rw [hany]

theorem any_ofVersion {groupId : Uuid} (h : ¬ OfVersion d versionId groupId) :
    (d.groups.any fun g => g.id = groupId ∧ g.versionId = versionId) = false := by
  rw [List.any_eq_false]
  intro g hg
  simp only [decide_eq_true_eq]
  rintro ⟨hid, hversion⟩
  exact h ⟨g, hg, hid, hversion⟩

theorem rowsOf_withoutGroups {ids : List Uuid}
    (h : ∀ g ∈ d.groupsAmong ids, g.versionId ≠ versionId) :
    (d.withoutGroups ids).rowsOf versionId = d.rowsOf versionId := by
  have hkept : ∀ g ∈ d.groups, g.versionId = versionId → g.id ∉ ids := by
    intro g hg hversion hid
    exact h g (List.mem_filter.mpr ⟨hg, by simpa using hid⟩) hversion
  refine rowsOf_congr rfl ?_ ?_
  · refine filter_remove_other ?_
    intro g hg hversion
    simpa using hkept g hg (by simpa using hversion)
  · refine filter_remove_other ?_
    intro c _ hc
    obtain ⟨g, hg, hgc⟩ := List.any_eq_true.mp hc
    simp only [decide_eq_true_eq] at hgc
    simpa [hgc.1] using hkept g hg hgc.2

theorem deleteGroups_tables {ids : List Uuid} (h : deleteGroups d ids = some d') :
    d'.versions = d.versions ∧ d'.groups.Sublist d.groups ∧
      d'.conditions.Sublist d.conditions := by
  induction d, ids using deleteGroups.induct with
  | case1 d ids hnone =>
    rw [deleteGroups, dif_pos hnone] at h
    cases h
    exact ⟨rfl, List.Sublist.refl _, List.Sublist.refl _⟩
  | case2 d ids hsome hguard ih =>
    rw [deleteGroups, dif_neg hsome, if_pos hguard] at h
    obtain ⟨hversions, hgroups, hconditions⟩ := ih h
    exact ⟨hversions, hgroups.trans List.filter_sublist, hconditions.trans List.filter_sublist⟩
  | case3 d ids hsome hguard =>
    rw [deleteGroups, dif_neg hsome, if_neg hguard] at h
    cases h

/-- **The cascade** takes groups of drafts only. -/
theorem deleteGroups_frame {ids : List Uuid} (h : deleteGroups d ids = some d')
    (hfrozen : Frozen d versionId) : d'.rowsOf versionId = d.rowsOf versionId := by
  induction d, ids using deleteGroups.induct with
  | case1 d ids hnone =>
    rw [deleteGroups, dif_pos hnone] at h
    cases h
    rfl
  | case2 d ids hsome hguard ih =>
    rw [deleteGroups, dif_neg hsome, if_pos hguard] at h
    refine (ih h hfrozen).trans (rowsOf_withoutGroups ?_)
    intro g hg
    exact hfrozen.ne (List.all_eq_true.mp hguard g hg)
  | case3 d ids hsome hguard =>
    rw [deleteGroups, dif_neg hsome, if_neg hguard] at h
    cases h

end RowsOf

/-! ## One statement -/

section Step

variable {ref : References} {d d' : VersionTables}

theorem applyOp_keyed (h : Keyed d) {op : RowOp} (hop : applyOp ref d op = some d') : Keyed d' := by
  cases op
  all_goals simp only [applyOp, Option.bind_eq_bind, Option.bind_eq_some_iff,
    Option.ite_none_right_eq_some, Option.some.injEq, Bool.and_eq_true] at hop
  case insertVersion row =>
    obtain ⟨hfits, rfl⟩ := hop
    refine ⟨Rows.nodup_map_concat h.versions ?_, h.groups, h.conditions⟩
    simp only [VersionRow.fits, Bool.and_eq_true, List.all_eq_true, decide_eq_true_eq] at hfits
    exact fun other hother => (hfits.2 other hother).1.1
  case updateVersion id row =>
    obtain ⟨old, -, hfits, rfl⟩ := hop
    refine ⟨nodup_map_replace h.versions ?_, h.groups, h.conditions⟩
    simp only [VersionRow.fits, Bool.and_eq_true, List.all_eq_true, decide_eq_true_eq] at hfits
    intro other hother hne
    exact (hfits.1.2.2 other (List.mem_filter.mpr ⟨hother, by simpa using hne⟩)).1.1
  case deleteVersion id =>
    obtain ⟨old, -, -, hgroups⟩ := hop
    obtain ⟨hversions, hsub, hsub'⟩ := deleteGroups_tables hgroups
    refine ⟨?_, h.groups.sublist (hsub.map _), h.conditions.sublist (hsub'.map _)⟩
    rw [hversions]
    exact h.versions.sublist (List.filter_sublist.map _)
  case insertConfig | updateConfig | deleteConfig =>
    obtain ⟨-, rfl⟩ := hop
    exact ⟨h.versions, h.groups, h.conditions⟩
  case insertGroup row =>
    obtain ⟨hfits, rfl⟩ := hop
    refine ⟨h.versions, Rows.nodup_map_concat h.groups ?_, h.conditions⟩
    simp only [GroupRow.fits, Bool.and_eq_true, List.all_eq_true, decide_eq_true_eq] at hfits
    exact fun other hother => (hfits.2.2 other hother).1
  case updateGroup id row =>
    obtain ⟨hfits, rfl⟩ := hop
    refine ⟨h.versions, nodup_map_replace h.groups ?_, h.conditions⟩
    simp only [GroupRow.fits, Bool.and_eq_true, List.all_eq_true, decide_eq_true_eq] at hfits
    intro other hother hne
    exact (hfits.1.2.2 other (List.mem_filter.mpr ⟨hother, by simpa using hne⟩)).1
  case deleteGroup id =>
    obtain ⟨-, -, hgroups⟩ := hop
    obtain ⟨hversions, hsub, hsub'⟩ := deleteGroups_tables hgroups
    refine ⟨?_, h.groups.sublist (hsub.map _), h.conditions.sublist (hsub'.map _)⟩
    rw [hversions]
    exact h.versions
  case insertCondition row =>
    obtain ⟨hfits, rfl⟩ := hop
    refine ⟨h.versions, h.groups, Rows.nodup_map_concat h.conditions ?_⟩
    simp only [ConditionRow.fits, Bool.and_eq_true, List.all_eq_true, decide_eq_true_eq] at hfits
    exact fun other hother => (hfits.2.2 other hother).1
  case updateCondition id row =>
    obtain ⟨hfits, rfl⟩ := hop
    refine ⟨h.versions, h.groups, nodup_map_replace h.conditions ?_⟩
    simp only [ConditionRow.fits, Bool.and_eq_true, List.all_eq_true, decide_eq_true_eq] at hfits
    intro other hother hne
    exact (hfits.2.2 other (List.mem_filter.mpr ⟨hother, by simpa using hne⟩)).1
  case deleteCondition id =>
    obtain ⟨-, -, -, rfl⟩ := hop
    exact ⟨h.versions, h.groups, h.conditions.sublist (List.filter_sublist.map _)⟩

/-- No row of the version is moved out of it, and its own row keeps its id and creation time. -/
def Stays (versionId : Uuid) (d : VersionTables) : RowOp → Prop
  | .updateVersion id row => id = versionId → ∀ old ∈ d.version? id,
      row.id = old.id ∧ row.createdAt = old.createdAt
  | .updateConfig id _ row => id = versionId → row.versionId = versionId
  | .updateGroup id row => OfVersion d versionId id → row.versionId = versionId
  | .updateCondition id row => ∀ c ∈ d.conditions, c.id = id → OfVersion d versionId c.groupId →
      OfVersion d versionId row.groupId
  | _ => True

/-- What a statement leaves of a version: its row but for the step to `deprecated`, and its
    configuration rows. -/
structure KeptVersion (row : VersionRow) (d d' : VersionTables) : Prop where
  own : ∃ row' ∈ d'.versions, row' = row ∨
    (row.status = .published ∧ row' = { row with status := .deprecated })
  rows : d'.rowsOf row.id = d.rowsOf row.id

theorem strategyVersionGuard_frozen {old new : VersionRow} (h : strategyVersionGuard old new = true)
    (hstatus : old.status ≠ .draft) (hid : new.id = old.id) (hcreated : new.createdAt = old.createdAt) :
    old.status = .published ∧ new = { old with status := .deprecated } := by
  simp only [strategyVersionGuard, Bool.or_eq_true, Bool.and_eq_true, decide_eq_true_eq] at h
  rcases h with h | ⟨⟨⟨⟨⟨⟨hold, hnew⟩, hstrategy⟩, hnumber⟩, hchangelog⟩, hcreator⟩, hpublished⟩
  · exact (hstatus h).elim
  · refine ⟨hold, ?_⟩
    cases new
    simp_all

theorem applyOp_frame (h : Keyed d) {row : VersionRow} (hrow : row ∈ d.versions)
    (hstatus : row.status ≠ .draft) {op : RowOp} (hstays : Stays row.id d op)
    (hop : applyOp ref d op = some d') : KeptVersion row d d' := by
  have hfrozen := h.frozen hrow hstatus
  cases op
  all_goals simp only [applyOp, Option.bind_eq_bind, Option.bind_eq_some_iff,
    Option.ite_none_right_eq_some, Option.some.injEq, Bool.and_eq_true] at hop
  case insertVersion new =>
    obtain ⟨-, rfl⟩ := hop
    exact ⟨⟨row, List.mem_append_left _ hrow, .inl rfl⟩, rfl⟩
  case updateVersion id new =>
    obtain ⟨old, hold, hfits, rfl⟩ := hop
    refine ⟨?_, rfl⟩
    by_cases hid : row.id = id
    · subst hid
      rw [h.version?_eq hrow] at hold
      cases hold
      obtain ⟨hnew, hcreated⟩ := hstays rfl row (h.version?_eq hrow)
      refine ⟨new, List.mem_map.mpr ⟨row, hrow, if_pos rfl⟩, .inr ?_⟩
      exact strategyVersionGuard_frozen hfits.1.1 hstatus hnew hcreated
    · exact ⟨row, List.mem_map.mpr ⟨row, hrow, if_neg hid⟩, .inl rfl⟩
  case deleteVersion id =>
    obtain ⟨old, hold, hdraft, hgroups⟩ := hop
    have hid : row.id ≠ id := by
      rintro rfl
      rw [h.version?_eq hrow] at hold
      cases hold
      exact hstatus hdraft
    have hrow' : row ∈ d.versions.filter fun r => r.id ≠ id :=
      List.mem_filter.mpr ⟨hrow, by simpa using hid⟩
    have hkeyed : Keyed
        { d with
          versions := d.versions.filter fun r => r.id ≠ id
          configs := d.configs.filter fun c => c.versionId ≠ id } :=
      ⟨h.versions.sublist (List.filter_sublist.map _), h.groups, h.conditions⟩
    obtain ⟨hversions, -, -⟩ := deleteGroups_tables hgroups
    refine ⟨⟨row, ?_, .inl rfl⟩, (deleteGroups_frame hgroups (hkeyed.frozen hrow' hstatus)).trans ?_⟩
    · rw [hversions]
      exact hrow'
    · refine rowsOf_congr (filter_remove_other ?_) rfl rfl
      intro c _ hc
      simp only [decide_eq_true_eq] at hc
      simpa [hc] using hid
  case insertConfig new =>
    obtain ⟨⟨hguard, -⟩, rfl⟩ := hop
    refine ⟨⟨row, hrow, .inl rfl⟩, rowsOf_congr (filter_append_other ?_) rfl rfl⟩
    simpa using hfrozen.ne hguard
  case updateConfig versionId key new =>
    obtain ⟨⟨⟨-, hguard⟩, -⟩, rfl⟩ := hop
    have hnew := hfrozen.ne hguard
    refine ⟨⟨row, hrow, .inl rfl⟩, rowsOf_congr (filter_update_other ?_ ?_) rfl rfl⟩
    · intro c _ hc
      simp only [decide_eq_true_eq] at hc
      simp only [decide_eq_false_iff_not]
      rw [hc.1]
      exact fun hid => hnew (hstays hid)
    · simpa using hnew
  case deleteConfig versionId key =>
    obtain ⟨⟨-, hguard⟩, rfl⟩ := hop
    have hother := hfrozen.ne hguard
    refine ⟨⟨row, hrow, .inl rfl⟩, rowsOf_congr (filter_remove_other ?_) rfl rfl⟩
    intro c _ hc
    simp only [decide_eq_true_eq] at hc
    simp [hc, Ne.symm hother]
  case insertGroup new =>
    obtain ⟨⟨hguard, -⟩, rfl⟩ := hop
    refine ⟨⟨row, hrow, .inl rfl⟩, rowsOf_congr rfl (filter_append_other ?_) rfl⟩
    simpa using hfrozen.ne hguard
  case updateGroup id new =>
    obtain ⟨⟨⟨⟨-, hguard⟩, -⟩, -⟩, rfl⟩ := hop
    have hnew := hfrozen.ne hguard
    refine ⟨⟨row, hrow, .inl rfl⟩, rowsOf_congr rfl (filter_update_other ?_ ?_) rfl⟩
    · intro g hg hid
      simp only [decide_eq_false_iff_not]
      exact fun hversion => hnew (hstays ⟨g, hg, hid, hversion⟩)
    · simpa using hnew
  case deleteGroup id =>
    obtain ⟨-, -, hgroups⟩ := hop
    obtain ⟨hversions, -, -⟩ := deleteGroups_tables hgroups
    refine ⟨⟨row, ?_, .inl rfl⟩, deleteGroups_frame hgroups hfrozen⟩
    rw [hversions]
    exact hrow
  case insertCondition new =>
    obtain ⟨⟨hguard, -⟩, rfl⟩ := hop
    refine ⟨⟨row, hrow, .inl rfl⟩, rowsOf_congr rfl rfl (filter_append_other ?_)⟩
    exact any_ofVersion (hfrozen.not_ofVersion h hguard)
  case updateCondition id new =>
    obtain ⟨⟨⟨-, hguard⟩, -⟩, rfl⟩ := hop
    have hnew := hfrozen.not_ofVersion h hguard
    refine ⟨⟨row, hrow, .inl rfl⟩, rowsOf_congr rfl rfl (filter_update_other ?_ ?_)⟩
    · intro c hc hid
      exact any_ofVersion fun hold => hnew (hstays c hc hid hold)
    · exact any_ofVersion hnew
  case deleteCondition id =>
    obtain ⟨old, hold, hguard, rfl⟩ := hop
    have hother := any_ofVersion (hfrozen.not_ofVersion h hguard)
    have hid : old.id = id := by simpa using List.find?_some hold
    refine ⟨⟨row, hrow, .inl rfl⟩, rowsOf_congr rfl rfl (filter_remove_other ?_)⟩
    intro c hc hversion
    simp only [decide_eq_true_eq]
    intro hcid
    have hsame := Rows.eq_of_key h.conditions hc (List.mem_of_find?_eq_some hold)
      (hcid.trans hid.symm)
    rw [hsame, hother] at hversion
    cases hversion

end Step

/-! ## Runs -/

section Runs

variable {ref : References} {row : VersionRow} {d u u' : VersionTables}

theorem KeptVersion.refl (hrow : row ∈ d.versions) : KeptVersion row d d :=
  ⟨⟨row, hrow, .inl rfl⟩, rfl⟩

theorem KeptVersion.step (h : KeptVersion row d u) (hu : Keyed u) (hstatus : row.status ≠ .draft)
    {op : RowOp} (hstays : Stays row.id u op) (hop : applyOp ref u op = some u') :
    KeptVersion row d u' := by
  obtain ⟨⟨row', hrow', hstep⟩, hrows⟩ := h
  rcases hstep with rfl | ⟨hpublished, rfl⟩
  · have hnext := applyOp_frame hu hrow' hstatus hstays hop
    exact ⟨hnext.own, hnext.rows.trans hrows⟩
  · have hdeprecated : ({ row with status := .deprecated } : VersionRow).status ≠ .draft := by
      intro h
      cases h
    have hnext := applyOp_frame hu hrow' hdeprecated hstays hop
    refine ⟨?_, hnext.rows.trans hrows⟩
    obtain ⟨row'', hrow'', hsame | ⟨hnever, -⟩⟩ := hnext.own
    · exact ⟨row'', hrow'', .inr ⟨hpublished, hsame⟩⟩
    · cases hnever

/-- No version. -/
def noVersions : VersionTables := ⟨[], [], [], []⟩

theorem rowStep_keyed (hd : Keyed d) (op : RowOp) : Keyed (rowStep ref d op) := by
  unfold rowStep
  cases hop : applyOp ref d op with
  | none => exact hd
  | some d' => exact applyOp_keyed hd hop

theorem keyed_of_run (ops : List RowOp) : Keyed (Runs.run (rowStep ref) noVersions ops) := by
  have hstep : ∀ (d : VersionTables) (op : RowOp), Keyed d → Keyed (rowStep ref d op) :=
    fun _ op hd => rowStep_keyed hd op
  have hstart : Keyed noVersions := ⟨List.nodup_nil, List.nodup_nil, List.nodup_nil⟩
  exact Runs.inv_run_always _ hstep hstart ops

theorem evaluateVersion_status {store : MarketStore} {config : VersionConfig}
    {status status' : VersionStatus} (h : status ≠ .draft) (h' : status' ≠ .draft) (asOfMs : ℤ) :
    evaluateVersion store ⟨status, config⟩ asOfMs = evaluateVersion store ⟨status', config⟩ asOfMs := by
  unfold evaluateVersion
  rw [if_neg h, if_neg h']

end Runs

/-- **A published version is frozen**, in every run that moves no row out of it: its configuration
    rows never change, its own row takes the step to `deprecated` at most, and it evaluates as it did. -/
theorem published_version_is_frozen (ref : References) (before after : List RowOp) (row : VersionRow)
    (hrow : row ∈ (Runs.run (rowStep ref) noVersions before).versions) (hstatus : row.status ≠ .draft)
    (hstays : Runs.Meets (rowStep ref) (Stays row.id) (Runs.run (rowStep ref) noVersions before) after)
    (u : VersionTables)
    (hu : Runs.Reached (rowStep ref) (Runs.run (rowStep ref) noVersions before) after u) :
    u.rowsOf row.id = (Runs.run (rowStep ref) noVersions before).rowsOf row.id ∧
      ∃ row' ∈ u.versions,
        (row' = row ∨ (row.status = .published ∧ row' = { row with status := .deprecated })) ∧
        ∀ (store : MarketStore) (asOfMs : ℤ),
          evaluateVersion store
              ⟨row'.status, readVersionConfig ref.instruments (u.rowsOf row.id)⟩ asOfMs =
            evaluateVersion store
              ⟨row.status, readVersionConfig ref.instruments
                ((Runs.run (rowStep ref) noVersions before).rowsOf row.id)⟩ asOfMs := by
  have hkept : Keyed u ∧ KeptVersion row (Runs.run (rowStep ref) noVersions before) u := by
    have hstep : ∀ (u : VersionTables) (op : RowOp),
        Keyed u ∧ KeptVersion row (Runs.run (rowStep ref) noVersions before) u → Stays row.id u op →
        Keyed (rowStep ref u op) ∧
          KeptVersion row (Runs.run (rowStep ref) noVersions before) (rowStep ref u op) := by
      rintro u op ⟨hkeyed, hkept⟩ hstays
      refine ⟨rowStep_keyed hkeyed op, ?_⟩
      unfold rowStep
      cases hop : applyOp ref u op with
      | none => exact hkept
      | some u' => exact hkept.step hkeyed hstatus hstays hop
    exact Runs.inv_of_reached _ hstep ⟨keyed_of_run before, .refl hrow⟩ hstays hu
  obtain ⟨row', hrow', hown⟩ := hkept.2.own
  refine ⟨hkept.2.rows, row', hrow', hown, ?_⟩
  intro store asOfMs
  rw [hkept.2.rows]
  apply evaluateVersion_status _ hstatus
  rcases hown with rfl | ⟨-, rfl⟩
  · exact hstatus
  · exact fun h => VersionStatus.noConfusion h

/-! ### A row moved to the next draft -/

def sampleReferences : References := ⟨fun _ => true, fun _ => true, fun _ => none⟩

def sampleVersion (id : Fin 16) (number : ℤ) (status : VersionStatus) (publishedAt : Option ℤ) :
    VersionRow :=
  ⟨Uuid.ofDigit id, Uuid.ofDigit 9, number, status, none, none, 0, publishedAt⟩

def setupTimeframe (id : Fin 16) : ConfigRow := ⟨Uuid.ofDigit id, .timeframe .setup .h1⟩

/-- A version with its setup timeframe, published; then the next draft. -/
def publishedThenDraft : List RowOp :=
  [.insertVersion (sampleVersion 1 1 .draft none), .insertConfig (setupTimeframe 1),
    .updateVersion (Uuid.ofDigit 1) (sampleVersion 1 1 .published (some 5)),
    .insertVersion (sampleVersion 2 2 .draft none)]

/-- The theorem holds of a version that is deprecated while the next draft is written. -/
theorem deprecated_version_is_frozen :
    (sampleVersion 1 1 .published (some 5)).status ≠ .draft ∧
    ∃ row' ∈ (Runs.run (rowStep sampleReferences)
        (Runs.run (rowStep sampleReferences) noVersions publishedThenDraft)
        [.insertConfig (setupTimeframe 2),
          .updateVersion (Uuid.ofDigit 1) (sampleVersion 1 1 .deprecated (some 5))]).versions,
      row' = sampleVersion 1 1 .published (some 5) ∨
        (sampleVersion 1 1 .published (some 5)).status = .published ∧
          row' = { sampleVersion 1 1 .published (some 5) with status := .deprecated } := by
  refine ⟨by decide, ?_⟩
  obtain ⟨-, row', hrow', hown, -⟩ := published_version_is_frozen sampleReferences publishedThenDraft
    [.insertConfig (setupTimeframe 2),
      .updateVersion (Uuid.ofDigit 1) (sampleVersion 1 1 .deprecated (some 5))]
    (sampleVersion 1 1 .published (some 5)) (by decide) (by decide)
    ⟨trivial, fun _ old hold => by
      have hrow : (rowStep sampleReferences
          (Runs.run (rowStep sampleReferences) noVersions publishedThenDraft)
          (.insertConfig (setupTimeframe 2))).version? (Uuid.ofDigit 1) =
          some (sampleVersion 1 1 .published (some 5)) := by decide
      rw [hrow] at hold
      cases hold
      exact ⟨rfl, rfl⟩, trivial⟩
    _ (Runs.reached_last _ _ _)
  exact ⟨row', hrow', hown⟩

/-- An UPDATE gives the timeframe row of the published version to the draft. -/
theorem published_version_loses_a_row :
    ¬ ∀ (ref : References) (before after : List RowOp) (row : VersionRow) (u : VersionTables),
      row ∈ (Runs.run (rowStep ref) noVersions before).versions → row.status = .published →
      Runs.Reached (rowStep ref) (Runs.run (rowStep ref) noVersions before) after u →
        u.rowsOf row.id = (Runs.run (rowStep ref) noVersions before).rowsOf row.id := by
  intro h
  have hmoved := h sampleReferences publishedThenDraft
    [.updateConfig (Uuid.ofDigit 1) (.timeframe .setup) (setupTimeframe 2)]
    (sampleVersion 1 1 .published (some 5)) _ (by decide) rfl (Runs.reached_last _ _ _)
  have hcount := congrArg (fun rows : VersionRows => rows.configs.length) hmoved
  revert hcount
  decide

end VeltrixEye.Versions
