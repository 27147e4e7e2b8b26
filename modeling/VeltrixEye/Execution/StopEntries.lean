import VeltrixEye.Execution.StopSwitches

/-!
# What an entry has read before it fills

* `EntryOk` — a call past its gates has read all four scopes and found each of them open.
* `submit_coverage` — an entry opens positions its own switches cover.
-/

namespace VeltrixEye

open Safety

variable {env : PaperEnv} {call : EntryCall} {seen : KillSwitchScope → Bool} {db : Db} {attempt : ℕ}
  {auth : PaperAuthorization}

/-! ## The gates -/

theorem switches_off_of_passed {input : PaperSimulationGateInput}
    (h : (evaluatePaperSimulationGates input).passed = true) :
    input.killSwitches.global = false ∧ input.killSwitches.user = false ∧
      input.killSwitches.strategy = false ∧ input.killSwitches.profile = false := by
  have hgate := passed_iff.mp h .kill_switch
  simp only [gateCheck, firstOf_eq_none] at hgate
  simpa using hgate

theorem seen_off_of_passed {input : PaperSimulationGateInput}
    (hseen : input.killSwitches = (call.withSwitches seen).ctx.killSwitches)
    (h : (evaluatePaperSimulationGates input).passed = true) (scope : KillSwitchScope) : seen scope = false := by
  obtain ⟨hglobal, huser, hstrategy, hprofile⟩ := switches_off_of_passed h
  rw [hseen] at hglobal huser hstrategy hprofile
  cases scope with
  | global => exact hglobal
  | user => exact huser
  | strategy => exact hstrategy
  | execution_profile => exact hprofile

theorem authorizeEntry_seen_off {decision : ExecutionDecision} {verdict : RiskEngineVerdict}
    {market : Except MarketRefusal SimulatorMarketPrice}
    (h : authorizeEntry env (call.withSwitches seen).ctx decision verdict market attempt = .ok auth)
    (scope : KillSwitchScope) : seen scope = false := by
  unfold authorizeEntry at h
  split at h
  · cases h
  split at h
  · cases h
  rename_i hgate
  have hpassed : (evaluatePaperSimulationGates
      (simulateGateInput env (call.withSwitches seen).ctx decision verdict market)).passed = true := by rw [hgate]
  exact @seen_off_of_passed call seen _ rfl hpassed scope

theorem verifyComposedEntry_seen_off {c : ComposedChecks} {decision : ExecutionDecision}
    {market : Except MarketRefusal SimulatorMarketPrice} {v : SimulatorMarketPrice × InstrumentRiskSpec}
    (h : verifyComposedEntry env (call.withSwitches seen).ctx c decision market = .ok v)
    (scope : KillSwitchScope) : seen scope = false := by
  unfold verifyComposedEntry at h
  simp only [Except.bind_ok_iff] at h
  obtain ⟨_, -, _, -, h⟩ := h
  split at h
  · simp only [Except.bind_ok_iff] at h
    obtain ⟨_, -, _, -, h⟩ := h
    split at h
    · cases h
    · cases h
    · split at h
      · cases h
      · rename_i approval happroval
        simp only [Except.bind_ok_iff] at h
        obtain ⟨_, -, _, -, _, -, h⟩ := h
        split at h
        · cases h
        split at h
        · cases h
        rename_i hgate
        have hpassed : (evaluatePaperSimulationGates (composedGateInput env (call.withSwitches seen).ctx c
            approval decision market)).passed = true := by rw [hgate]
        exact @seen_off_of_passed call seen _ rfl hpassed scope
  · cases h

/-- A call that has passed its gates and not ended. -/
def EntryPhase.decided : EntryPhase → Bool
  | .presented _ | .recounting _ | .authorized _ => true
  | _ => false

/-- **Past the gates every scope was found open.** -/
theorem authorizePhase_seen_off
    (h : (authorizePhase env (call.withSwitches seen) db attempt).decided = true) (scope : KillSwitchScope) :
    seen scope = false := by
  unfold authorizePhase at h
  split at h
  · cases h
  split at h
  · split at h
    · cases h
    · rename_i hauth
      exact authorizeEntry_seen_off hauth scope
  · split at h
    · cases h
    · rename_i hverified
      exact verifyComposedEntry_seen_off hverified scope

/-! ## The authorization -/

/-- The authorization a call fills under. -/
structure EnteredBy (call : EntryCall) (auth : PaperAuthorization) : Prop where
  kind_eq : auth.kind = .entry
  userId_eq : auth.userId = call.ctx.userId
  executionProfileId_eq : auth.executionProfileId = call.ctx.executionProfileId
  strategyId_eq : auth.decision.strategyId = call.ctx.setup.strategyId

theorem builtDecision_strategyId {src : SetupDecisionSource} {d : ExecutionDecision}
    (h : buildServerExecutionDecision src = .ok d) : d.strategyId = src.strategyId := by
  unfold buildServerExecutionDecision at h
  simp only [Except.bind_ok_iff] at h
  obtain ⟨_, -, _, -, _, -, _, -, _, -, _, -, _, -, _, -, _, -, _, -, h⟩ := h
  cases h
  rfl

theorem enteredBy_entryAuthorization {decision : ExecutionDecision} {size : ℚ} {price : SimulatorMarketPrice}
    {spec : InstrumentRiskSpec} (hbuilt : buildServerExecutionDecision call.ctx.setup = .ok decision) :
    EnteredBy call (entryAuthorization env call.ctx decision size price spec attempt) :=
  ⟨rfl, rfl, rfl, builtDecision_strategyId hbuilt⟩

theorem authorizePhase_enteredBy (h : authorizePhase env call db attempt = .authorized auth) :
    EnteredBy call auth := by
  unfold authorizePhase at h
  split at h
  · cases h
  rename_i decision hbuilt
  split at h
  · split at h
    · cases h
    · rename_i auth' hauth
      cases h
      obtain ⟨price, size, spec, -, -, -, -, -, rfl⟩ := authorizeEntry_ok hauth
      exact enteredBy_entryAuthorization hbuilt
  · split at h
    · cases h
    · split at h
      · split at h <;> cases h
      · cases h

theorem comparePhase_enteredBy {rederived : ℕ} (h : comparePhase env call attempt rederived = .authorized auth) :
    EnteredBy call auth := by
  unfold comparePhase at h
  split at h
  · rename_i decision c hbuilt hcomposed
    split at h
    · cases h
    split at h
    · split at h
      · cases h
      · cases h
        exact enteredBy_entryAuthorization hbuilt
    · cases h
  · cases h

theorem rederivePhase_enteredBy (h : rederivePhase env call db attempt = .authorized auth) :
    EnteredBy call auth := by
  unfold rederivePhase at h
  split at h
  · cases h
  split at h
  · split at h
    · cases h
    · exact comparePhase_enteredBy h
  · exact comparePhase_enteredBy h

end VeltrixEye

namespace VeltrixEye.Safety

variable {env : PaperEnv} {globalForced : Bool} {facts : SubscriptionFacts} {d : SafetyTables} {db : Db}
  {t : EntryTask}

/-! ## One statement of an entry -/

/-- What the phase of a call says about its reads. -/
structure EntryOk (t : EntryTask) : Prop where
  decided : t.phase.decided = true → ∀ scope, t.hasRead scope = true ∧ t.seen scope = false
  /-- The gates come after the last read. -/
  ordered : ∀ rest, (.authorize :: rest) <:+ t.program → ∀ scope, .readSwitch scope ∉ rest
  entered : ∀ auth, t.phase = .authorized auth → EnteredBy t.call auth

theorem programs_ordered (scope : KillSwitchScope) : ∀ program ∈ [simulateProgram, composedProgram],
    ∀ l ∈ program.tails, l.head? = some .authorize → .readSwitch scope ∉ l.tail := by
  cases scope <;> decide

theorem program_mem (call : EntryCall) : call.program ∈ [simulateProgram, composedProgram] := by
  unfold EntryCall.program
  split <;> simp

theorem entryOk_start (call : EntryCall) : EntryOk (.start call) where
  decided h := by cases h
  ordered rest hrest scope :=
    programs_ordered scope call.program (program_mem call) _ ((List.mem_tails _ _).mpr hrest) rfl
  entered auth h := by cases h

section Exec

variable (env globalForced facts d db)

theorem exec_frame (t : EntryTask) (s : EntryStatement) :
    (t.exec env globalForced facts d db s).2.call = t.call ∧
      (t.exec env globalForced facts d db s).2.program = t.program ∧
      ∀ scope, s ≠ .readSwitch scope → (t.exec env globalForced facts d db s).2.seen scope = t.seen scope := by
  unfold EntryTask.exec
  cases s with
  | readSwitch scope' =>
    refine ⟨rfl, rfl, fun scope hne => Function.update_of_ne ?_ _ _⟩
    rintro rfl
    exact hne rfl
  | readState =>
    dsimp only
    split
    · exact ⟨rfl, rfl, fun _ _ => rfl⟩
    · split
      · exact ⟨rfl, rfl, fun _ _ => rfl⟩
      · split <;> exact ⟨rfl, rfl, fun _ _ => rfl⟩
  | checkSwitches =>
    dsimp only
    split <;> exact ⟨rfl, rfl, fun _ _ => rfl⟩
  | _ =>
    dsimp only
    split <;> exact ⟨rfl, rfl, fun _ _ => rfl⟩

/-- What a statement does to the phase of a call. -/
inductive PhaseMove (env : PaperEnv) (db : Db) (t : EntryTask) : EntryStatement → EntryPhase → Prop where
  | stays (s : EntryStatement) : PhaseMove env db t s t.phase
  /-- Ended, or still before the gates. -/
  | undecided (s : EntryStatement) (ph : EntryPhase) (h : ph.decided = false) : PhaseMove env db t s ph
  | gates (attempt : ℕ) : PhaseMove env db t .authorize (authorizePhase env t.loaded db attempt)
  | rederives (attempt : ℕ) (h : t.phase.decided = true) :
      PhaseMove env db t .rederive (rederivePhase env t.loaded db attempt)
  | recounts (attempt rederived : ℕ) (h : t.phase.decided = true) :
      PhaseMove env db t .recount (comparePhase env t.loaded attempt rederived)

theorem startPhase_undecided (call : EntryCall) :
    (startPhase env call db).decided = false := by
  unfold startPhase
  split
  · rfl
  · split
    · split <;> rfl
    · rfl

/-- **What each statement does.** -/
theorem exec_phase (t : EntryTask) (s : EntryStatement) :
    PhaseMove env db t s (t.exec env globalForced facts d db s).2.phase := by
  unfold EntryTask.exec
  cases s with
  | start =>
    dsimp only
    split
    · exact .undecided _ _ (startPhase_undecided env db t.call)
    · exact .stays _
  | count =>
    dsimp only
    split
    · exact .undecided _ _ rfl
    · exact .stays _
  | readState =>
    dsimp only
    split
    · exact .undecided _ _ rfl
    split
    · exact .undecided _ _ rfl
    · split
      · exact .undecided _ _ rfl
      · exact .stays _
  | readSwitch scope => exact .stays _
  | checkSwitches =>
    dsimp only
    split
    · exact .undecided _ _ rfl
    · exact .stays _
  | authorize =>
    dsimp only
    split
    · exact .gates _
    · exact .stays _
  | rederive =>
    dsimp only
    split
    · rename_i hphase
      exact .rederives _ (by rw [hphase]; rfl)
    · exact .stays _
  | recount =>
    dsimp only
    split
    · rename_i hphase
      exact .recounts _ _ (by rw [hphase]; rfl)
    · exact .stays _
  | submit =>
    dsimp only
    split
    · exact .undecided _ _ rfl
    · exact .stays _

theorem step_cases (t : EntryTask) : t.step env globalForced facts d db = (db, t) ∨
      ∃ s program, t.program = s :: program ∧ t.finished = false ∧
        t.step env globalForced facts d db = { t with program }.exec env globalForced facts d db s := by
  unfold EntryTask.step
  split
  · exact .inl rfl
  · rename_i s program hprogram
    cases hfinished : t.finished with
    | true => exact .inl (by simp)
    | false => exact .inr ⟨s, program, hprogram, rfl, by simp⟩

end Exec

theorem PhaseMove.decided {s : EntryStatement} {ph : EntryPhase} (h : PhaseMove env db t s ph)
    (hph : ph.decided = true) : t.phase.decided = true ∨ s = .authorize ∧ ∀ scope, t.seen scope = false := by
  cases h with
  | stays => exact .inl hph
  | undecided _ _ hundecided =>
    rw [hundecided] at hph
    cases hph
  | gates attempt => exact .inr ⟨rfl, authorizePhase_seen_off hph⟩
  | rederives attempt hdecided => exact .inl hdecided
  | recounts attempt rederived hdecided => exact .inl hdecided

theorem PhaseMove.entered {s : EntryStatement} {ph : EntryPhase} (h : PhaseMove env db t s ph)
    (ht : ∀ auth, t.phase = .authorized auth → EnteredBy t.call auth) {auth : PaperAuthorization}
    (hph : ph = .authorized auth) : EnteredBy t.call auth := by
  have same : ∀ {auth}, EnteredBy t.loaded auth → EnteredBy t.call auth := fun he =>
    ⟨he.kind_eq, he.userId_eq, he.executionProfileId_eq, he.strategyId_eq⟩
  cases h with
  | stays => exact ht auth hph
  | undecided _ _ hundecided =>
    rw [hph] at hundecided
    cases hundecided
  | gates attempt => exact same (authorizePhase_enteredBy hph)
  | rederives attempt hdecided => exact same (rederivePhase_enteredBy hph)
  | recounts attempt rederived hdecided => exact same (comparePhase_enteredBy hph)

/-- **One statement keeps what the phase says.** -/
theorem step_ok (h : EntryOk t) : EntryOk (t.step env globalForced facts d db).2 := by
  rcases step_cases env globalForced facts d db t with heq | ⟨s, program, hprogram, -, heq⟩
  · rw [heq]
    exact h
  · rw [heq]
    obtain ⟨hcall, hrest, hseen⟩ := exec_frame env globalForced facts d db { t with program } s
    have hmove := exec_phase env globalForced facts d db { t with program } s
    refine ⟨fun hdecided scope => ?_, fun rest hsuffix => ?_, fun auth hauth => ?_⟩
    · rw [EntryTask.hasRead, hrest]
      rcases hmove.decided hdecided with hbefore | ⟨rfl, hoff⟩
      · obtain ⟨hread, hoff⟩ := h.decided hbefore scope
        rw [EntryTask.hasRead, hprogram, decide_eq_true_eq, List.mem_cons, not_or] at hread
        rw [hseen scope (Ne.symm hread.1)]
        exact ⟨decide_eq_true hread.2, hoff⟩
      · rw [hseen scope nofun]
        exact ⟨decide_eq_true (h.ordered program (hprogram ▸ List.suffix_refl _) scope), hoff scope⟩
    · rw [hrest] at hsuffix
      exact h.ordered rest (hsuffix.trans (hprogram ▸ List.suffix_cons s program))
    · rw [hcall]
      exact hmove.entered h.entered hauth

/-- **A call comes to rely on a switch by reading it open.** -/
theorem step_relies {key : SwitchKey} (h : (t.step env globalForced facts d db).2.relies key = true) :
    t.relies key = true ∨ d.isActive globalForced key = false := by
  rcases step_cases env globalForced facts d db t with heq | ⟨s, program, hprogram, hrunning, heq⟩
  · rw [heq] at h
    exact .inl h
  · rw [heq] at h
    obtain ⟨hcall, hrest, hseen⟩ := exec_frame env globalForced facts d db { t with program } s
    simp only [EntryTask.relies, EntryTask.hasRead, hrest, hcall, Bool.and_eq_true, Bool.not_eq_true',
      decide_eq_true_eq] at h
    obtain ⟨⟨⟨-, hread⟩, hoff⟩, hkey⟩ := h
    by_cases hs : s = .readSwitch key.scope
    · subst hs
      right
      simpa [EntryTask.exec, hkey] using hoff
    · left
      rw [hseen key.scope hs] at hoff
      simp only [EntryTask.relies, EntryTask.hasRead, hprogram, List.mem_cons, Bool.and_eq_true,
        Bool.not_eq_true', decide_eq_true_eq, not_or]
      exact ⟨⟨⟨hrunning, Ne.symm hs, hread⟩, hoff⟩, hkey⟩

/-! ## Positions -/

section Positions

variable {mode : PaperFailureMode} {auth : PaperAuthorization} {fresh : Fresh} {p : PositionRow}

theorem newPositionRow_openedBy {fill : FillComputation} {row : PositionRow}
    (h : newPositionRow auth fresh fill = .ok row) : row.openedByOrderId = some fresh.orderId := by
  unfold newPositionRow at h
  simp only [Except.bind_ok_iff] at h
  obtain ⟨_, -, _, -, _, -, _, -, _, -, _, -, h⟩ := h
  cases h
  rfl

theorem exit_no_new (hcons : Consistent db) (hkind : auth.kind ≠ .entry)
    (hp : p ∈ (runFillTransaction env mode auth fresh db).2.positions) : ∃ q ∈ db.positions, q.id = p.id := by
  have hcase : RunCase env mode auth fresh db (runFillTransaction env mode auth fresh db).2 :=
    runFillTransaction_cases hcons
  generalize (runFillTransaction env mode auth fresh db).2 = db' at hcase hp
  cases hcase with
  | unchanged => exact ⟨p, hp, rfl⟩
  | failed => exact ⟨p, hp, rfl⟩
  | entry order fill row fillRow hentry => exact absurd hentry hkind
  | exit =>
    have hid := List.mem_map_of_mem (f := PositionRow.id) hp
    rw [Db.setPosition_ids] at hid
    exact List.mem_map.mp hid

/-- **An entry opens positions its own switches cover.** -/
theorem submit_coverage {call : EntryCall} (hcons : Consistent db) (hby : EnteredBy call auth)
    (hp : p ∈ (runFillTransaction env mode auth fresh db).2.positions) (hnew : ∀ q ∈ db.positions, q.id ≠ p.id)
    {key : SwitchKey} (hkey : key ∈ coverage (runFillTransaction env mode auth fresh db).2 p) :
    call.switchKey key.scope = some key := by
  have target : ∀ {scope id}, key ∈ (targetSwitch scope id).toList →
      targetSwitch scope id = some key ∧ key.scope = scope := by
    intro scope id hmem
    have heq : targetSwitch scope id = some key := Option.mem_toList.mp hmem
    refine ⟨heq, ?_⟩
    unfold targetSwitch at heq
    split at heq
    · cases heq
    · cases heq
      rfl
  have hcase : RunCase env mode auth fresh db (runFillTransaction env mode auth fresh db).2 :=
    runFillTransaction_cases hcons
  generalize (runFillTransaction env mode auth fresh db).2 = db' at hcase hp hkey
  cases hcase with
  | unchanged => exact absurd rfl (hnew p hp)
  | failed => exact absurd rfl (hnew p hp)
  | exit order fill reason position row net account fillRow hkind =>
    rw [hby.kind_eq] at hkind
    cases hkind
  | entry order fill row fillRow _ hins _ _ hrow =>
    rcases List.mem_append.mp hp with hold | hp
    · exact absurd rfl (hnew p hold)
    · obtain rfl := List.mem_singleton.mp hp
      have hposition := newPositionRow_ok hrow
      simp only [coverage, List.mem_cons, List.mem_append, List.mem_flatMap, List.mem_filter,
        decide_eq_true_eq] at hkey
      rcases hkey with rfl | rfl | hprofile | ⟨o, ⟨ho, hopened⟩, hstrategy⟩
      · rfl
      · show some (SwitchKey.mk .user (some call.ctx.userId)) = _
        rw [hposition.userId_eq, hby.userId_eq]
      · obtain ⟨heq, hscope⟩ := target hprofile
        rw [hposition.executionProfileId_eq, hby.executionProfileId_eq] at heq
        rw [hscope]
        exact heq
      · -- the order that opened the row is the one the transaction inserted
        have hid : o.id = fresh.orderId := by
          rw [newPositionRow_openedBy hrow] at hopened
          exact Option.some.inj hopened
        rcases ho with hold | ho
        · exact absurd hid (hins.id_fresh o hold)
        · simp only [List.not_mem_nil, or_false] at ho
          obtain ⟨heq, hscope⟩ := target hstrategy
          rw [ho, hins.decision_eq, PaperAuthorization.snapshot, if_pos hby.kind_eq, hby.strategyId_eq] at heq
          rw [hscope]
          exact heq

end Positions

end VeltrixEye.Safety
