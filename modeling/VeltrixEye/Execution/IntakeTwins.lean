import VeltrixEye.Execution.Intake

/-!
# Intake twins (`execution/intake.ts`)

The row of an identity is written once, and a reservation leaves the table only when it is released or has
expired.

* `IntakeInv` — what holds of the tables, of every call and of every two calls.
-/

namespace VeltrixEye.Intake

open Runs

variable {env : PaperEnv} {I : RequestIdentity} {d d' : IntakeTables} {t u : IntakeTask}

/-! ## Tables -/

def IntakeTables.decisionIds (d : IntakeTables) : List String := d.composition.decisions.map RiskDecisionRow.id

structure TablesOk (env : PaperEnv) (I : RequestIdentity) (d : IntakeTables) : Prop where
  /-- A reservation is of a decision. -/
  issued : ∀ r ∈ d.composition.reservations, r.riskDecisionId ∈ d.decisionIds
  unique : (d.composition.reservations.map ReservationRow.riskDecisionId).Nodup
  one_row : (d.requestsOf (I.hash env)).length ≤ 1
  /-- What the unique indexes refuse is the identity's own row. -/
  taken : d.taken I (I.hash env) = true → d.requestsOf (I.hash env) ≠ []

/-- What a statement of one call may do to the tables the other calls look at. -/
structure Moves (key : String) (d d' : IntakeTables) : Prop where
  decisions : ∀ id ∈ d.decisionIds, id ∈ d'.decisionIds
  requests : ∀ r ∈ d.requestsOf key, r ∈ d'.requestsOf key
  reservations : ∀ r ∈ d'.composition.reservations,
    r ∈ d.composition.reservations ∨ r.riskDecisionId ∉ d.decisionIds

theorem Moves.refl (key : String) (d : IntakeTables) : Moves key d d :=
  ⟨fun _ h => h, fun _ h => h, fun _ h => .inl h⟩

theorem requestsOf_eq_of_mem {r r' : RequestRow} {key : String} (hone : (d.requestsOf key).length ≤ 1)
    (hr : r ∈ d.requestsOf key) (hr' : r' ∈ d.requestsOf key) : r = r' := by
  obtain ⟨i, hi, rfl⟩ := List.getElem_of_mem hr
  obtain ⟨j, hj, rfl⟩ := List.getElem_of_mem hr'
  obtain rfl : i = j := by omega
  rfl

theorem findByKey_some {r : RequestRow} {key : String} (h : d.findByKey key = some r) : r ∈ d.requestsOf key :=
  List.mem_filter.mpr ⟨List.mem_of_find?_eq_some h, by simpa using List.find?_some h⟩

theorem findByKey_none {key : String} (h : d.findByKey key = none) : d.requestsOf key = [] := by
  unfold IntakeTables.findByKey at h
  unfold IntakeTables.requestsOf
  rw [List.filter_eq_nil_iff]
  exact fun r hr => List.find?_eq_none.mp h r hr

theorem evaluateAndReserve_ok {risk : RiskInputs} {c c' : CompositionTables} {userId profileId : String}
    {decision : ExecutionDecision} {verdict : RiskEngineVerdict}
    (h : evaluateAndReserve env risk c userId profileId decision = .ok (verdict, c')) :
    (∀ row ∈ c.decisions, row.id ≠ risk.decisionId) ∧
      c'.decisions.map RiskDecisionRow.id = c.decisions.map RiskDecisionRow.id ++ [risk.decisionId] ∧
      ∃ kept, kept.Sublist c.reservations ∧ (c'.reservations = kept ∨
        ∃ r, r.riskDecisionId = risk.decisionId ∧ c'.reservations = kept ++ [r]) := by
  have hid : ∀ {row : RiskDecisionRow} {v}, persistDecision risk userId profileId decision v = .ok row →
      row.id = risk.decisionId := by
    intro row v hrow
    unfold persistDecision at hrow
    simp only [Except.bind_ok_iff] at hrow
    obtain ⟨_, -, _, -, _, -, _, -, hrow⟩ := hrow
    cases hrow
    rfl
  unfold evaluateAndReserve at h
  simp only [Except.bind_ok_iff, constraint_ok] at h
  obtain ⟨_, hfresh, row, hrow, h⟩ := h
  refine ⟨hfresh, ?_⟩
  have hkept : (reclaimExpiredReservations profileId risk.nowMs c.reservations).Sublist c.reservations :=
    List.filter_sublist
  split at h
  · simp only [Except.bind_ok_iff, constraint_ok] at h
    obtain ⟨_, -, reservation, hreservation, h⟩ := h
    cases h
    refine ⟨by simp [hid hrow], _, hkept, .inr ⟨reservation, ?_, rfl⟩⟩
    unfold approvalReservation at hreservation
    obtain ⟨_, -, hreservation⟩ := Except.bind_ok_iff.mp hreservation
    cases hreservation
    rfl
  · cases h
    exact ⟨by simp [hid hrow], _, hkept, .inl rfl⟩

section Evaluations

variable {risk : RiskInputs} {userId profileId : String} {decision : ExecutionDecision}
  {verdict : RiskEngineVerdict} {composition : CompositionTables}

theorem evaluate_moves (key : String)
    (h : evaluateAndReserve env risk d.composition userId profileId decision = .ok (verdict, composition)) :
    Moves key d { d with composition } := by
  obtain ⟨hfresh, hids, kept, hkept, hreservations⟩ := evaluateAndReserve_ok h
  refine ⟨fun id hid => ?_, fun _ hr => hr, fun r hr => ?_⟩
  · show id ∈ composition.decisions.map RiskDecisionRow.id
    rw [hids]
    exact List.mem_append_left _ hid
  · rcases hreservations with heq | ⟨new, hnew, heq⟩
    · rw [heq] at hr
      exact .inl (hkept.subset hr)
    · rw [heq] at hr
      rcases List.mem_append.mp hr with hr | hr
      · exact .inl (hkept.subset hr)
      · right
        rw [List.mem_singleton.mp hr, hnew]
        intro hmem
        obtain ⟨row, hrow, hid⟩ := List.mem_map.mp hmem
        exact hfresh row hrow hid

theorem evaluate_tables (hd : TablesOk env I d)
    (h : evaluateAndReserve env risk d.composition userId profileId decision = .ok (verdict, composition)) :
    TablesOk env I { d with composition } := by
  obtain ⟨hfresh, hids, kept, hkept, hreservations⟩ := evaluateAndReserve_ok h
  have hids' : IntakeTables.decisionIds { d with composition } = d.decisionIds ++ [risk.decisionId] := hids
  have hold : ∀ r ∈ kept, r.riskDecisionId ∈ d.decisionIds := fun r hr => hd.issued r (hkept.subset hr)
  refine ⟨fun r hr => ?_, ?_, hd.one_row, hd.taken⟩
  · rw [hids']
    rcases hreservations with heq | ⟨new, hnew, heq⟩
    · exact List.mem_append_left _ (hold r (heq ▸ hr))
    · rcases List.mem_append.mp (heq ▸ hr) with hr | hr
      · exact List.mem_append_left _ (hold r hr)
      · rw [List.mem_singleton.mp hr, hnew]
        exact List.mem_append_right _ (List.mem_singleton_self _)
  · have hnodup : (kept.map ReservationRow.riskDecisionId).Nodup := (hkept.map _).nodup hd.unique
    rcases hreservations with heq | ⟨new, hnew, heq⟩
    · show (composition.reservations.map _).Nodup
      rw [heq]
      exact hnodup
    · show (composition.reservations.map _).Nodup
      rw [heq, List.map_append, List.nodup_append]
      refine ⟨hnodup, by simp, fun id hid id' hid' heq => ?_⟩
      obtain ⟨r, hr, rfl⟩ := List.mem_map.mp hid
      simp only [List.map_cons, List.map_nil, List.mem_singleton] at hid'
      obtain ⟨row, hrow, hrowid⟩ := List.mem_map.mp (hold r hr)
      exact hfresh row hrow (hrowid.trans (heq.trans (hid'.trans hnew)))

end Evaluations

theorem release_moves (key id : String) (d : IntakeTables) :
    Moves key d { d with composition := { d.composition with
      reservations := releaseReservation id d.composition.reservations } } :=
  ⟨fun _ h => h, fun _ h => h, fun _ h => .inl (List.mem_of_mem_filter h)⟩

theorem release_tables (hd : TablesOk env I d) (id : String) :
    TablesOk env I { d with composition := { d.composition with
      reservations := releaseReservation id d.composition.reservations } } where
  issued r hr := hd.issued r (List.mem_of_mem_filter hr)
  unique := (List.filter_sublist.map _).nodup hd.unique
  one_row := hd.one_row
  taken := hd.taken

/-! ## Calls -/

/-- What a call knows. -/
structure TaskOk (env : PaperEnv) (I : RequestIdentity) (d : IntakeTables) (t : IntakeTask) : Prop where
  identity : t.call.identity = I
  issued : t.issued = true → t.call.risk.decisionId ∈ d.decisionIds
  phase : match t.phase with
    | .inserting _ => t.issued = true
    | .reading gate => t.issued = true ∧ ∃ r ∈ d.requestsOf (I.hash env), Stores r gate
    | .releasing gate r => t.issued = true ∧ r ∈ d.requestsOf (I.hash env) ∧ Stores r gate
    | .returned result => result.request ∈ d.requestsOf (I.hash env) ∧
        (result.accepted = true ↔ result.request.status = .requested) ∧ Stores result.request result.gate ∧
        (result.replayed = true → t.issued = false) ∧
        (result.gate.passed = false → t.holds d = false)
    | _ => t.issued = false

theorem Moves.holds {key : String} (h : Moves key d d') (hissued : t.issued = true → t.call.risk.decisionId ∈ d.decisionIds)
    (hholds : t.holds d' = true) : t.holds d = true := by
  simp only [IntakeTask.holds, Bool.and_eq_true, List.any_eq_true, decide_eq_true_eq] at hholds ⊢
  obtain ⟨ht, r, hr, hid⟩ := hholds
  refine ⟨ht, r, ?_, hid⟩
  rcases h.reservations r hr with hr | hnew
  · exact hr
  · rw [hid] at hnew
    exact absurd (hissued ht) hnew

theorem TaskOk.of_moves (h : TaskOk env I d t) (hmoves : Moves (I.hash env) d d') : TaskOk env I d' t := by
  refine ⟨h.identity, fun ht => hmoves.decisions _ (h.issued ht), ?_⟩
  have hphase := h.phase
  cases hcase : t.phase with
  | reading gate =>
    rw [hcase] at hphase
    obtain ⟨hissued, r, hr, hstores⟩ := hphase
    exact ⟨hissued, r, hmoves.requests r hr, hstores⟩
  | releasing gate r =>
    rw [hcase] at hphase
    exact ⟨hphase.1, hmoves.requests r hphase.2.1, hphase.2.2⟩
  | returned result =>
    rw [hcase] at hphase
    obtain ⟨hr, haccepted, hstores, hreplayed, hreleased⟩ := hphase
    refine ⟨hmoves.requests _ hr, haccepted, hstores, hreplayed, fun hgate => ?_⟩
    by_contra hholds
    have := hmoves.holds h.issued (Bool.not_eq_false _ ▸ hholds)
    rw [hreleased hgate] at this
    cases this
  | _ => simpa only [hcase] using hphase

/-! ## The invariant -/

structure IntakeInv (env : PaperEnv) (I : RequestIdentity) (p : IntakePool) : Prop where
  tables : TablesOk env I p.shared
  task : ∀ t ∈ p.tasks, TaskOk env I p.shared t
  /-- No decision is issued to two calls. -/
  distinct : ∀ (i j : ℕ) t u, i ≠ j → p.tasks[i]? = some t → p.tasks[j]? = some u → t.issued = true →
    u.issued = true → t.call.risk.decisionId ≠ u.call.risk.decisionId
  /-- One accepted call holds a reservation at most. -/
  one_held : ∀ (i j : ℕ) t u, i ≠ j → p.tasks[i]? = some t → p.tasks[j]? = some u → t.accepted = true →
    u.accepted = true → t.holds p.shared = true → u.holds p.shared = false

variable {p : IntakePool}

theorem IntakeInv.update (h : IntakeInv env I p) (hd : TablesOk env I d') (hmoves : Moves (I.hash env) p.shared d') :
    IntakeInv env I ⟨d', p.tasks⟩ where
  tables := hd
  task t ht := (h.task t ht).of_moves hmoves
  distinct := h.distinct
  one_held i j t u hij ht hu hta hua hheld := by
    have hbefore := hmoves.holds (h.task t (List.mem_of_getElem? ht)).issued hheld
    have hfree := h.one_held i j t u hij ht hu hta hua hbefore
    by_contra hholds
    have := hmoves.holds (h.task u (List.mem_of_getElem? hu)).issued (Bool.not_eq_false _ ▸ hholds)
    rw [hfree] at this
    cases this

/-- **A statement of one call.** -/
theorem IntakeInv.advance (h : IntakeInv env I p) {w : ℕ} {t' : IntakeTask}
    (hd : TablesOk env I d') (hmoves : Moves (I.hash env) p.shared d') (ht' : TaskOk env I d' t')
    (hdistinct : ∀ i u, i ≠ w → p.tasks[i]? = some u → t'.issued = true → u.issued = true →
      t'.call.risk.decisionId ≠ u.call.risk.decisionId)
    (hheld : ∀ i u, i ≠ w → p.tasks[i]? = some u → t'.accepted = true → u.accepted = true →
      ¬ (t'.holds d' = true ∧ u.holds d' = true)) :
    IntakeInv env I ⟨d', p.tasks.set w t'⟩ := by
  have hothers := h.update hd hmoves
  refine ⟨hd, fun u hu => ?_, fun i j a b hij ha hb hai hbi => ?_, fun i j a b hij ha hb haa hba hah => ?_⟩
  · rcases List.mem_or_eq_of_mem_set hu with hu | rfl
    · exact hothers.task u hu
    · exact ht'
  · rcases Pool.getElem?_set_cases ha with ⟨hiw, rfl⟩ | ⟨hiw, ha'⟩
    · rcases Pool.getElem?_set_cases hb with ⟨hjw, -⟩ | ⟨hjw, hb'⟩
      · exact absurd (hiw.trans hjw.symm) hij
      · exact hdistinct j b hjw hb' hai hbi
    · rcases Pool.getElem?_set_cases hb with ⟨-, rfl⟩ | ⟨-, hb'⟩
      · exact (hdistinct i a hiw ha' hbi hai).symm
      · exact h.distinct i j a b hij ha' hb' hai hbi
  · by_contra hbh
    rw [Bool.not_eq_false] at hbh
    rcases Pool.getElem?_set_cases ha with ⟨hiw, rfl⟩ | ⟨hiw, ha'⟩
    · rcases Pool.getElem?_set_cases hb with ⟨hjw, -⟩ | ⟨hjw, hb'⟩
      · exact hij (hiw.trans hjw.symm)
      · exact hheld j b hjw hb' haa hba ⟨hah, hbh⟩
    · rcases Pool.getElem?_set_cases hb with ⟨-, rfl⟩ | ⟨-, hb'⟩
      · exact hheld i a hiw ha' hba haa ⟨hbh, hah⟩
      · have hfree := hothers.one_held i j a b hij ha' hb' haa hba hah
        rw [hbh] at hfree
        cases hfree

theorem IntakeInv.goto (h : IntakeInv env I p) {w : ℕ} {t : IntakeTask} (hw : p.tasks[w]? = some t)
    {phase : IntakePhase} (ht' : TaskOk env I p.shared (t.goto phase))
    (haccepted : (t.goto phase).accepted = true → t.accepted = true) :
    IntakeInv env I ⟨p.shared, p.tasks.set w (t.goto phase)⟩ := by
  refine h.advance h.tables (.refl _ _) ht' (fun i u hi hu => h.distinct w i t u (Ne.symm hi) hw hu)
    fun i u hi hu hta hua hboth => ?_
  have hfree := h.one_held w i t u (Ne.symm hi) hw hu (haccepted hta) hua hboth.1
  rw [hboth.2] at hfree
  cases hfree

/-! ## Statements -/

theorem stores_row (env : PaperEnv) (call : IntakeCall) (gate : GateResult) :
    Stores (call.row env gate) gate := by
  refine ⟨?_, rfl, rfl⟩
  simp only [IntakeCall.row, statusOf]
  split <;> simp_all

theorem stores_replay (r : RequestRow) : Stores r (replayResult r).gate :=
  ⟨by simp [replayResult], rfl, rfl⟩

theorem requestsOf_of_not_taken (h : d.taken I (I.hash env) = false) : d.requestsOf (I.hash env) = [] := by
  unfold IntakeTables.taken at h
  unfold IntakeTables.requestsOf
  rw [List.filter_eq_nil_iff]
  intro r hr
  have := List.any_eq_false.mp h r hr
  simp_all

section Insert

variable {w : ℕ} {gate : GateResult}

theorem IntakeInv.lose (h : IntakeInv env I p) (hw : p.tasks[w]? = some t) (hphase : t.phase = .inserting gate)
    (htaken : p.shared.taken I (I.hash env) = true)
    (hcond : NoContraryTwin (I.hash env) p (.work w)) :
    IntakeInv env I ⟨p.shared, p.tasks.set w (t.goto (.reading gate))⟩ := by
  have ht := h.task t (List.mem_of_getElem? hw)
  have hissued : t.issued = true := by simpa only [hphase] using ht.phase
  obtain ⟨r, hr⟩ := List.exists_mem_of_ne_nil _ (h.tables.taken htaken)
  obtain ⟨hstores, halone⟩ := hcond t hw gate hphase r hr
  refine h.advance h.tables (.refl _ _) ⟨ht.identity, ht.issued, hissued, r, hr, hstores⟩
    (fun i u hi hu => h.distinct w i t u (Ne.symm hi) hw hu) fun i u hi hu hta hua hboth => ?_
  have hfree := halone hta hboth.1 u (List.mem_of_getElem? hu) hua
  rw [hboth.2] at hfree
  cases hfree

theorem IntakeInv.win (h : IntakeInv env I p) (hw : p.tasks[w]? = some t) (hphase : t.phase = .inserting gate)
    (htaken : p.shared.taken I (I.hash env) = false) :
    IntakeInv env I ⟨{ p.shared with requests := p.shared.requests ++ [t.call.row env gate] },
      p.tasks.set w (t.goto (.reading gate))⟩ := by
  have ht := h.task t (List.mem_of_getElem? hw)
  have hissued : t.issued = true := by simpa only [hphase] using ht.phase
  have hnone := requestsOf_of_not_taken htaken
  have hrow : IntakeTables.requestsOf { p.shared with requests := p.shared.requests ++ [t.call.row env gate] }
      (I.hash env) = [t.call.row env gate] := by
    have hkey : (t.call.row env gate).idempotencyKey = I.hash env := by
      rw [← ht.identity]
      rfl
    unfold IntakeTables.requestsOf at hnone ⊢
    rw [List.filter_append, hnone]
    simp [hkey]
  have hmoves : Moves (I.hash env) p.shared
      { p.shared with requests := p.shared.requests ++ [t.call.row env gate] } := by
    refine ⟨fun _ hid => hid, fun r hr => ?_, fun _ hr => .inl hr⟩
    rw [hnone] at hr
    cases hr
  refine h.advance ⟨h.tables.issued, h.tables.unique, ?_, fun _ => ?_⟩ hmoves
    ⟨ht.identity, ht.issued, hissued, t.call.row env gate, ?_, stores_row env t.call gate⟩
    (fun i u hi hu => h.distinct w i t u (Ne.symm hi) hw hu) fun i u hi hu hta hua hboth => ?_
  · rw [hrow]
    simp
  · rw [hrow]
    simp
  · rw [hrow]
    simp
  · -- an accepted call has found a row
    have hphase := (h.task u (List.mem_of_getElem? hu)).phase
    unfold IntakeTask.accepted at hua
    cases hcase : u.phase with
    | reading g =>
      rw [hcase] at hphase
      obtain ⟨-, r, hr, -⟩ := hphase
      rw [hnone] at hr
      cases hr
    | releasing g r =>
      rw [hcase] at hphase
      rw [hnone] at hphase
      cases hphase.2.1
    | returned result =>
      rw [hcase] at hphase
      rw [hnone] at hphase
      cases hphase.1
    | _ =>
      rw [hcase] at hua
      cases hua

end Insert

theorem IntakeInv.evaluated (h : IntakeInv env I p) {w : ℕ} (hw : p.tasks[w]? = some t) {gate : GateResult}
    {verdict : RiskEngineVerdict} {composition : CompositionTables}
    (heval : evaluateAndReserve env t.call.risk p.shared.composition t.call.userId t.call.executionProfileId
      t.call.decision = .ok (verdict, composition)) :
    IntakeInv env I ⟨{ p.shared with composition },
      p.tasks.set w { t with phase := .inserting gate, issued := true }⟩ := by
  have ht := h.task t (List.mem_of_getElem? hw)
  obtain ⟨hfresh, hids, -⟩ := evaluateAndReserve_ok heval
  refine h.advance (evaluate_tables h.tables heval) (evaluate_moves _ heval) ⟨ht.identity, fun _ => ?_, rfl⟩
    (fun i u hi hu _ huissued heq => ?_) fun i u hi hu hta => ?_
  · show t.call.risk.decisionId ∈ composition.decisions.map RiskDecisionRow.id
    rw [hids]
    exact List.mem_append_right _ (List.mem_singleton_self _)
  · obtain ⟨row, hrow, hid⟩ := List.mem_map.mp ((h.task u (List.mem_of_getElem? hu)).issued huissued)
    exact hfresh row hrow (hid.trans heq.symm)
  · cases hta

theorem IntakeInv.released (h : IntakeInv env I p) {w : ℕ} (hw : p.tasks[w]? = some t) {gate : GateResult}
    {r : RequestRow} (hphase : t.phase = .releasing gate r) (hgate : gate.passed = false) :
    IntakeInv env I ⟨{ p.shared with composition := { p.shared.composition with
        reservations := releaseReservation t.call.risk.decisionId p.shared.composition.reservations } },
      p.tasks.set w (t.goto (.returned ⟨gate.passed, false, r, gate⟩))⟩ := by
  have ht := h.task t (List.mem_of_getElem? hw)
  obtain ⟨-, hr, hstores⟩ : t.issued = true ∧ r ∈ p.shared.requestsOf (I.hash env) ∧ Stores r gate := by
    simpa only [hphase] using ht.phase
  refine h.advance (release_tables h.tables _) (release_moves _ _ _)
    ⟨ht.identity, ht.issued, hr, hstores.passed, hstores, nofun, fun _ => ?_⟩
    (fun i u hi hu => h.distinct w i t u (Ne.symm hi) hw hu) fun i u hi hu hta => ?_
  · simp only [IntakeTask.holds, IntakeTask.goto, releaseReservation, Bool.and_eq_false_imp, List.any_filter,
      List.any_eq_false]
    intro _ x _
    by_cases hid : x.riskDecisionId = t.call.risk.decisionId <;> simp [hid]
  · simp [IntakeTask.goto, IntakeTask.accepted, hgate] at hta

theorem set_self {α : Type} {l : List α} {w : ℕ} {t : α} (hw : l[w]? = some t) : l.set w t = l := by
  obtain ⟨hlt, rfl⟩ := List.getElem?_eq_some_iff.mp hw
  exact List.set_getElem_self hlt

/-- **A statement of one call**, when it is no contrary twin's. -/
theorem intakeTask_inv (h : IntakeInv env I p) {w : ℕ} (hw : p.tasks[w]? = some t)
    (hcond : NoContraryTwin (I.hash env) p (.work w)) :
    IntakeInv env I ⟨(t.step env p.shared).1, p.tasks.set w (t.step env p.shared).2⟩ := by
  have ht := h.task t (List.mem_of_getElem? hw)
  have hkey : t.call.identity.hash env = I.hash env := by rw [ht.identity]
  -- a call that has not been issued a decision moves on, or stops
  have moved : ∀ {phase}, t.issued = false → (t.goto phase).accepted = false →
      (match phase with
        | .inserting _ | .reading _ | .releasing _ _ | .returned _ => False
        | _ => True) → IntakeInv env I ⟨p.shared, p.tasks.set w (t.goto phase)⟩ := by
    intro phase hissued haccepted hphase
    refine h.goto hw ⟨ht.identity, ht.issued, ?_⟩ fun hta => by rw [haccepted] at hta; cases hta
    cases phase <;> first | exact hissued | cases hphase
  unfold IntakeTask.step
  cases hphase : t.phase with
  | idle =>
    have hissued : t.issued = false := by simpa only [hphase] using ht.phase
    dsimp only
    split
    · split <;> exact moved hissued rfl trivial
    · exact moved hissued rfl trivial
  | owned profile =>
    have hissued : t.issued = false := by simpa only [hphase] using ht.phase
    dsimp only
    split <;> exact moved hissued rfl trivial
  | resolved profile setup =>
    have hissued : t.issued = false := by simpa only [hphase] using ht.phase
    dsimp only
    split
    · rename_i request hfound
      have hr : request ∈ p.shared.requestsOf (I.hash env) := hkey ▸ findByKey_some hfound
      refine h.goto hw ⟨ht.identity, ht.issued, hr, by simp [replayResult], stores_replay request, fun _ => hissued,
        fun _ => ?_⟩ nofun
      show (t.issued && _) = false
      rw [hissued]
      rfl
    · exact moved hissued rfl trivial
  | unclaimed profile setup =>
    have hissued : t.issued = false := by simpa only [hphase] using ht.phase
    dsimp only
    split <;> exact moved hissued rfl trivial
  | armed profile setup automation =>
    have hissued : t.issued = false := by simpa only [hphase] using ht.phase
    exact moved hissued rfl trivial
  | evaluating profile setup automation killSwitches =>
    have hissued : t.issued = false := by simpa only [hphase] using ht.phase
    dsimp only
    split
    · exact moved hissued rfl trivial
    · rename_i heval
      exact h.evaluated hw heval
  | inserting gate =>
    dsimp only
    rw [ht.identity]
    split
    · rename_i htaken
      exact h.lose hw hphase htaken hcond
    · rename_i htaken
      exact h.win hw hphase (Bool.eq_false_iff.mpr htaken)
  | reading gate =>
    obtain ⟨hissued, r, hr, hstores⟩ : t.issued = true ∧ ∃ r ∈ p.shared.requestsOf (I.hash env), Stores r gate := by
      simpa only [hphase] using ht.phase
    dsimp only
    rw [hkey]
    split
    · rename_i hnone
      rw [findByKey_none hnone] at hr
      cases hr
    · rename_i request hfound
      obtain rfl := requestsOf_eq_of_mem h.tables.one_row hr (findByKey_some hfound)
      refine h.goto hw ⟨ht.identity, ht.issued, hissued, hr, hstores⟩ fun hta => ?_
      simpa [IntakeTask.accepted, hphase, IntakeTask.goto] using hta
  | releasing gate r =>
    obtain ⟨-, hr, hstores⟩ : t.issued = true ∧ r ∈ p.shared.requestsOf (I.hash env) ∧ Stores r gate := by
      simpa only [hphase] using ht.phase
    dsimp only
    cases hgate : gate.passed with
    | true =>
      have hrequested : r.status = .requested := hstores.passed.mp hgate
      refine h.goto hw ⟨ht.identity, ht.issued, hr, by simp [hrequested], hstores, nofun,
        fun hrefused => ?_⟩ fun hta => ?_
      · rw [hgate] at hrefused
        cases hrefused
      · simp [IntakeTask.accepted, hphase, hgate]
    | false =>
      have := h.released hw hphase hgate
      rw [hgate] at this
      exact this
  | returned result =>
    rwa [set_self hw]
  | threw e =>
    rwa [set_self hw]

/-! ## The system -/

theorem IntakeInv.spawn (h : IntakeInv env I p) {call : IntakeCall} (hcall : call.identity = I) :
    IntakeInv env I (p.spawn ⟨call, .idle, false⟩) := by
  have old : ∀ {i : ℕ} {t : IntakeTask}, (p.spawn ⟨call, .idle, false⟩).tasks[i]? = some t →
      p.tasks[i]? = some t ∨ t = ⟨call, .idle, false⟩ := by
    intro i t hi
    simp only [Pool.spawn, List.getElem?_append] at hi
    split at hi
    · exact .inl hi
    · exact .inr (List.mem_singleton.mp (List.mem_of_getElem? hi))
  refine ⟨h.tables, fun t ht => ?_, fun i j t u hij ht hu hti hui => ?_, fun i j t u hij ht hu hta hua => ?_⟩
  · rcases List.mem_append.mp ht with ht | ht
    · exact h.task t ht
    · rw [List.mem_singleton.mp ht]
      exact ⟨hcall, nofun, rfl⟩
  · rcases old ht with ht | rfl
    · rcases old hu with hu | rfl
      · exact h.distinct i j t u hij ht hu hti hui
      · cases hui
    · cases hti
  · rcases old ht with ht | rfl
    · rcases old hu with hu | rfl
      · exact h.one_held i j t u hij ht hu hta hua
      · cases hua
    · cases hta

/-- **Any step of the system**, when it is no contrary twin's. -/
theorem intakeStep_inv (h : IntakeInv env I p) {a : IntakeAction} (hI : OfIdentity I a)
    (ha : NoContraryTwin (I.hash env) p a) : IntakeInv env I (intakeStep env p a) := by
  cases a with
  | submit call => exact h.spawn hI
  | work w =>
    simp only [intakeStep]
    cases hw : p.tasks[w]? with
    | none => rwa [Pool.advance_of_none hw]
    | some t =>
      rw [Pool.advance_of_get hw]
      exact intakeTask_inv h hw ha
  | change inputs =>
    exact h.update ⟨h.tables.issued, h.tables.unique, h.tables.one_row, h.tables.taken⟩
      ⟨fun _ hid => hid, fun _ hr => hr, fun _ hr => .inl hr⟩
  | evaluate risk userId executionProfileId decision =>
    simp only [intakeStep, Pool.update]
    split
    · exact h
    · rename_i heval
      exact h.update (evaluate_tables h.tables heval) (evaluate_moves _ heval)
  | release riskDecisionId =>
    simp only [intakeStep, Pool.update]
    split
    · exact h
    · exact h.update (release_tables h.tables _) (release_moves _ _ _)

/-! ## When all calls have ended -/

theorem live_accepted (h : IntakeInv env I p) (hquiet : ∀ t ∈ p.tasks, t.quiet = true) {nowMs : ℤ}
    {r : ReservationRow} (hr : r ∈ liveOf p nowMs) :
    ∃ (i : ℕ) (t : IntakeTask), p.tasks[i]? = some t ∧ t.call.risk.decisionId = r.riskDecisionId ∧ t.accepted = true ∧
      t.holds p.shared = true ∧ ∃ row ∈ p.shared.requestsOf (I.hash env), row.status = .requested := by
  obtain ⟨hr, hlive⟩ := List.mem_filter.mp hr
  simp only [Bool.and_eq_true, decide_eq_true_eq, issuedTo, List.any_eq_true] at hlive
  obtain ⟨-, t, ht, hissued, hid⟩ := hlive
  have hholds : t.holds p.shared = true := by
    simp only [IntakeTask.holds, hissued, Bool.true_and, List.any_eq_true, decide_eq_true_eq]
    exact ⟨r, hr, hid.symm⟩
  have hphase := (h.task t ht).phase
  have hended := hquiet t ht
  obtain ⟨i, hi⟩ := List.getElem?_of_mem ht
  unfold IntakeTask.quiet at hended
  cases hcase : t.phase with
  | returned result =>
    rw [hcase] at hphase
    obtain ⟨hrow, -, hstores, hreplayed, hreleased⟩ := hphase
    have hfirst : result.replayed = false := by
      by_contra hreplay
      have := hreplayed (Bool.not_eq_false _ ▸ hreplay)
      rw [hissued] at this
      cases this
    have hpassed : result.gate.passed = true := by
      by_contra hrefused
      have := hreleased (Bool.not_eq_true _ ▸ hrefused)
      rw [hholds] at this
      cases this
    exact ⟨i, t, hi, hid, by simp [IntakeTask.accepted, hcase, hfirst, hpassed], hholds, _, hrow,
      hstores.passed.mp hpassed⟩
  | idle =>
    rw [hcase] at hphase
    rw [hissued] at hphase
    cases hphase
  | threw e =>
    rw [hcase] at hphase
    rw [hissued] at hphase
    cases hphase
  | _ =>
    rw [hcase] at hended
    cases hended

theorem live_unique (h : IntakeInv env I p) (hquiet : ∀ t ∈ p.tasks, t.quiet = true) (nowMs : ℤ) :
    (liveOf p nowMs).length ≤ 1 := by
  have hnodup : ((liveOf p nowMs).map ReservationRow.riskDecisionId).Nodup :=
    (List.filter_sublist.map _).nodup h.tables.unique
  match hlive : liveOf p nowMs with
  | [] => simp
  | [_] => simp
  | a :: b :: rest =>
    rw [hlive] at hnodup
    have hne : a.riskDecisionId ≠ b.riskDecisionId := by
      intro heq
      simp [heq] at hnodup
    obtain ⟨i, t, hi, hta, haccepted, hheld, -⟩ := live_accepted h hquiet (hlive ▸ List.mem_cons_self ..)
    obtain ⟨j, u, hj, hub, huaccepted, huheld, -⟩ :=
      live_accepted h hquiet (hlive ▸ List.mem_cons_of_mem _ (List.mem_cons_self ..))
    have hij : i ≠ j := by
      rintro rfl
      rw [hi] at hj
      cases hj
      exact hne (hta.symm.trans hub)
    have := h.one_held i j t u hij hi hj haccepted huaccepted hheld
    rw [huheld] at this
    cases this

theorem IntakeInv.agree (h : IntakeInv env I p) : TwinsAgree (I.hash env) p where
  one_request := h.tables.one_row
  returned t ht result hreturned := by
    have hphase := (h.task t ht).phase
    rw [hreturned] at hphase
    obtain ⟨hrow, haccepted, hstores, -⟩ := hphase
    have hone := h.tables.one_row
    refine ⟨?_, haccepted, hstores⟩
    match hrows : p.shared.requestsOf (I.hash env) with
    | [] =>
      rw [hrows] at hrow
      cases hrow
    | [r] =>
      rw [hrows] at hrow
      rw [List.mem_singleton.mp hrow]
    | _ :: _ :: _ =>
      rw [hrows] at hone
      simp at hone
  quiescent hquiet nowMs := by
    refine ⟨live_unique h hquiet nowMs, fun r hr hrejected => List.eq_nil_iff_forall_not_mem.mpr fun a ha => ?_⟩
    obtain ⟨-, -, -, -, -, -, row, hrow, hrequested⟩ := live_accepted h hquiet ha
    rw [requestsOf_eq_of_mem h.tables.one_row hr hrow, hrequested] at hrejected
    cases hrejected

/-- **Intake twins agree**, in every run in which no call finds its identity taken with gates other than
    the stored row has, or as a second accepted call that holds a reservation. -/
theorem twins_agree (env : PaperEnv) (I : RequestIdentity) {d : IntakeTables} (hd : TablesOk env I d)
    (acts : List IntakeAction)
    (hmeets : Meets (intakeStep env) (fun p a => OfIdentity I a ∧ NoContraryTwin (I.hash env) p a) ⟨d, []⟩ acts)
    {p : IntakePool} (hp : Reached (intakeStep env) ⟨d, []⟩ acts p) : TwinsAgree (I.hash env) p := by
  have hstep : ∀ p a, IntakeInv env I p → OfIdentity I a ∧ NoContraryTwin (I.hash env) p a →
      IntakeInv env I (intakeStep env p a) := fun _ _ h ha => intakeStep_inv h ha.1 ha.2
  have h0 : IntakeInv env I ⟨d, []⟩ := ⟨hd, by simp, by simp, by simp⟩
  exact (inv_of_reached _ hstep h0 hmeets hp).agree

/-! ## Two calls of one identity -/

/-- One user with automation on, one confirmed setup and a paper profile. -/
def sampleTables (switches : List Safety.KillSwitchRow) : IntakeTables where
  composition := { paperTables none with safety := { (paperTables none).safety with switches } }
  strategyVersionId := fun _ => "version"
  requests := []

def sampleIdentity : RequestIdentity := ⟨"user", "setup", "profile", .open_long⟩

/-- A call of the identity. -/
def twin (decisionId requestId : String) : IntakeCall where
  userId := "user"
  executionProfileId := "profile"
  decision := gapDecision
  strategyVersionId := "version"
  expectedRr := 2
  providerReady := true
  risk := { (handoffInputs none).risk with decisionId }
  requestId

theorem sampleTables_ok (switches : List Safety.KillSwitchRow) :
    TablesOk sampleEnv sampleIdentity (sampleTables switches) where
  issued r hr := absurd hr (List.not_mem_nil)
  unique := List.nodup_nil
  one_row := Nat.zero_le _
  taken h := by cases h

def userSwitch : Safety.KillSwitchRow :=
  ⟨⟨.user, some "user"⟩, true, some "panic", .user, some "user", some 1700000000000⟩

/-- The switch rows, set from outside. -/
def switchTo (switches : List Safety.KillSwitchRow) : IntakeAction :=
  .change ⟨(sampleTables []).composition.profiles, (sampleTables []).composition.setups,
    (sampleTables switches).composition.safety, Db.empty, fun _ => "version"⟩

def work (w n : ℕ) : List IntakeAction := List.replicate n (.work w)

instance (I : RequestIdentity) (a : IntakeAction) : Decidable (OfIdentity I a) :=
  match a with
  | .submit call => inferInstanceAs (Decidable (call.identity = I))
  | .work _ | .change _ | .evaluate .. | .release _ => isTrue trivial

instance (r : RequestRow) (gate : GateResult) : Decidable (Stores r gate) :=
  decidable_of_iff ((gate.passed = true ↔ r.status = .requested) ∧ gate.failedGate = r.rejectionGate ∧
    gate.reason = r.rejectionReason) ⟨fun ⟨h₁, h₂, h₃⟩ => ⟨h₁, h₂, h₃⟩, fun h => ⟨h.1, h.2, h.3⟩⟩

/-- The gates a call is about to insert. -/
def IntakeTask.insertion? (t : IntakeTask) : Option GateResult :=
  match t.phase with
  | .inserting gate => some gate
  | _ => none

theorem insertion?_eq_some {gate : GateResult} : gate ∈ t.insertion? ↔ t.phase = .inserting gate := by
  unfold IntakeTask.insertion?
  split
  · rename_i g hphase
    simp [hphase]
  · rename_i hother
    simp only [Option.mem_def, reduceCtorEq, false_iff]
    exact hother gate

instance (key : String) (p : IntakePool) (a : IntakeAction) : Decidable (NoContraryTwin key p a) :=
  match a with
  | .work w => decidable_of_iff (∀ t ∈ p.tasks[w]?, ∀ gate ∈ t.insertion?,
      ∀ r ∈ p.shared.requestsOf key, Stores r gate ∧ (gate.passed = true → t.holds p.shared = true →
        ∀ u ∈ p.tasks, u.accepted = true → u.holds p.shared = false))
      ⟨fun h t ht gate hgate => h t ht gate (insertion?_eq_some.mpr hgate),
        fun h t ht gate hgate => h t ht gate (insertion?_eq_some.mp hgate)⟩
  | .submit _ | .change _ | .evaluate .. | .release _ => isTrue trivial

/-- What a call has returned, and the status of the row. -/
def IntakeTask.outcome? (t : IntakeTask) : Option (Bool × Bool × RequestStatus) :=
  match t.phase with
  | .returned result => some (result.accepted, result.replayed, result.request.status)
  | _ => none

theorem outcome?_eq_some {accepted replayed : Bool} {status : RequestStatus}
    (h : t.outcome? = some (accepted, replayed, status)) :
    ∃ result, t.phase = .returned result ∧ result.accepted = accepted ∧ result.request.status = status := by
  unfold IntakeTask.outcome? at h
  split at h
  · rename_i result hphase
    cases h
    exact ⟨result, hphase, rfl, rfl⟩
  · cases h

/-- Both calls evaluate under the user's switch before either inserts, a third one replays. -/
def agreeingRun : List IntakeAction :=
  [.submit (twin "decision 0" "request 0"), .submit (twin "decision 1" "request 1")] ++ work 0 6 ++ work 1 6 ++
    work 0 3 ++ work 1 3 ++ .submit (twin "decision 2" "request 2") :: work 2 3

/-- Twins that are refused together. -/
theorem refused_twins_agree :
    let p := run (intakeStep sampleEnv) ⟨sampleTables [userSwitch], []⟩ agreeingRun
    TwinsAgree (sampleIdentity.hash sampleEnv) p ∧ p.tasks.map IntakeTask.outcome? =
      [some (false, false, .rejected), some (false, false, .rejected), some (false, true, .rejected)] := by
  refine ⟨twins_agree sampleEnv sampleIdentity (sampleTables_ok _) agreeingRun ?_ (reached_last _ _ _), ?_⟩
  · decide +kernel
  · decide +kernel

/-- The first call reads the user's switch, which is then cleared. -/
def contraryRun : List IntakeAction :=
  [.submit (twin "decision 0" "request 0"), .submit (twin "decision 1" "request 1")] ++ work 0 5 ++
    switchTo [] :: (work 0 1 ++ work 1 6 ++ work 0 3 ++ work 1 3)

/-- The second call returns accepted with the first one's rejected row. -/
theorem contrary_twin_is_accepted :
    ¬ ∀ (env : PaperEnv) (I : RequestIdentity) (d : IntakeTables) (_ : TablesOk env I d) (acts : List IntakeAction)
      (_ : ∀ a ∈ acts, OfIdentity I a) (p : IntakePool) (_ : Reached (intakeStep env) ⟨d, []⟩ acts p),
      TwinsAgree (I.hash env) p := by
  intro h
  have hrun : ∃ t ∈ (run (intakeStep sampleEnv) ⟨sampleTables [userSwitch], []⟩ contraryRun).tasks,
      t.outcome? = some (true, false, .rejected) := by
    decide +kernel
  obtain ⟨t, ht, houtcome⟩ := hrun
  obtain ⟨result, hphase, haccepted, hstatus⟩ := outcome?_eq_some houtcome
  have hagree := h sampleEnv sampleIdentity _ (sampleTables_ok [userSwitch]) contraryRun (by decide) _
    (reached_last _ _ contraryRun)
  have hrequested := ((hagree.returned t ht result hphase).2.1).mp haccepted
  rw [hstatus] at hrequested
  cases hrequested

end VeltrixEye.Intake
