import VeltrixEye.Execution.StopEntries

/-!
# Stop means stop (`emergencyStop`, `KillSwitchService`, `setAutomationEnabled`, `simulate`)

* `StopInv` — what every reachable state satisfies while no entry has been overtaken: an entry relies on
  switches that are open.
-/

namespace VeltrixEye.Safety

open Runs

variable {env : PaperEnv} {globalForced : Bool} {s : StopState}

/-! ## The invariant -/

structure StopInv (globalForced : Bool) (s : StopState) : Prop where
  safety : SystemOk s.safety
  automation : ∀ t ∈ s.automation, AutomationOk t
  entries : ∀ t ∈ s.entries, EntryOk t
  /-- The switches an entry relies on are open. -/
  relied : ∀ t ∈ s.entries, ∀ key, t.relies key = true → s.safety.shared.isActive globalForced key = false
  exits : ∀ t ∈ s.exits, ∀ auth, t.phase = .authorized auth → auth.kind ≠ .entry
  consistent : Consistent s.db

theorem stopInv_initial (users : List UserRow) (profiles : List ProfileRow) (strategies : List StrategyRow)
    {db : Db} (hcons : Consistent db) : StopInv globalForced (.initial users profiles strategies db) where
  safety := systemOk_initial users profiles strategies
  automation := by simp [StopState.initial]
  entries := by simp [StopState.initial]
  relied := by simp [StopState.initial]
  exits := by simp [StopState.initial]
  consistent := hcons

theorem systemOk_of_eq {p : SafetyPool} {d : SafetyTables} (h : SystemOk p)
    (hswitches : d.switches = p.shared.switches) (hevents : d.events = p.shared.events)
    (hids : d.nextEventId = p.shared.nextEventId) : SystemOk { p with shared := d } where
  shared := tablesOk_of_eq h.shared hswitches hevents (Nat.le_of_eq hids.symm)
  task t ht tx htx := (h.task t ht tx htx).of_same (sameSwitch_of_eq hswitches hevents _) (Nat.le_of_eq hids.symm)
  pair := h.pair

theorem start_relies (call : EntryCall) (key : SwitchKey) : (EntryTask.start call).relies key = false := by
  have hreads : ∀ scope, ∀ program ∈ [simulateProgram, composedProgram], .readSwitch scope ∈ program := by
    intro scope
    cases scope <;> decide
  have hread : (EntryTask.start call).hasRead key.scope = false := by
    exact decide_eq_false (not_not.mpr (hreads key.scope call.program (program_mem call)))
  simp [EntryTask.relies, hread]

theorem entryOk_ended {t : EntryTask} (h : EntryOk t) : EntryOk { t with phase := .finished .abandoned } where
  decided hdecided := by cases hdecided
  ordered := h.ordered
  entered auth hauth := by cases hauth

theorem step_db (facts : SubscriptionFacts) (d : SafetyTables) (db : Db) (t : EntryTask) :
    (t.step env globalForced facts d db).1 = db ∨
      ∃ auth, t.finished = false ∧ t.phase = .authorized auth ∧
        (t.step env globalForced facts d db).1 = (runFillTransaction env t.call.mode auth t.call.fresh db).2 := by
  rcases step_cases env globalForced facts d db t with heq | ⟨s, program, -, hrunning, heq⟩
  · exact .inl (by rw [heq])
  · rw [heq]
    unfold EntryTask.exec
    cases s with
    | submit =>
      dsimp only
      split
      · rename_i auth hphase
        exact .inr ⟨auth, hrunning, hphase, rfl⟩
      · exact .inl rfl
    | readState =>
      dsimp only
      split
      · exact .inl rfl
      · split
        · exact .inl rfl
        · split <;> exact .inl rfl
    | readSwitch scope => exact .inl rfl
    | _ =>
      dsimp only
      split <;> exact .inl rfl

theorem exitTask_db (t : ExitTask) (db : Db) :
    (t.step env db).1 = db ∨
      ∃ auth, t.phase = .authorized auth ∧ (t.step env db).1 = (runFillTransaction env .off auth t.attempt.fresh db).2 := by
  unfold ExitTask.step
  split
  · exact .inl rfl
  · exact .inl rfl
  · rename_i auth hphase
    exact .inr ⟨auth, hphase, rfl⟩
  · exact .inl rfl

theorem exitTask_kind {t : ExitTask} {db : Db} {auth : PaperAuthorization}
    (h : (t.step env db).2.phase = .authorized auth) : auth.kind ≠ .entry := by
  unfold ExitTask.step at h
  split at h
  · unfold loadPhase at h
    dsimp only at h
    split at h
    · split at h <;> cases h
    · cases h
  · exact (precheckPhase_authorized h).kind_ne
  · cases h
  · rename_i hphase
    rw [hphase] at h
    cases h

theorem mem_set_cases {α : Type} {l : List α} {w : ℕ} {a b : α} (h : b ∈ l.set w a) : b = a ∨ b ∈ l :=
  (List.mem_or_eq_of_mem_set h).symm

/-- **One statement of any call keeps the invariant**, when it overtakes no entry. -/
theorem stopStep_inv (h : StopInv globalForced s) {a : StopAction} (ha : NoneOvertaken s a) :
    StopInv globalForced (stopStep env globalForced s a) := by
  cases a with
  | safety b =>
    refine { h with safety := safetyStep_ok h.safety b, relied := fun t ht key hkey => ?_ }
    have hopen := h.relied t ht key hkey
    by_contra hactive
    rw [Bool.not_eq_false] at hactive
    rcases (safetyStep_isActive h.safety globalForced b key).2.1 hactive with hbefore | hcommits
    · rw [hopen] at hbefore
      cases hbefore
    · obtain ⟨w, now, u, tx, rfl, hw, htx, hnext, rfl, hwrite⟩ := hcommits
      have hfree := ha u hw tx htx hnext hwrite t ht
      rw [hkey] at hfree
      cases hfree
  | setAutomationEnabled userId enabled =>
    refine { h with automation := fun t ht => ?_ }
    rcases List.mem_append.mp ht with ht | ht
    · exact h.automation t ht
    · rw [List.mem_singleton.mp ht]
      trivial
  | automation w facts userFirst =>
    cases hw : s.automation[w]? with
    | none => simpa [stopStep, hw] using h
    | some t =>
      simp only [stopStep, hw]
      have hstep := automationStep_ok (d := s.safety.shared) globalForced facts userFirst s.safety.tasks
        (h.automation t (List.mem_of_getElem? hw))
      refine { h with
        safety := systemOk_of_eq h.safety hstep.switches hstep.events hstep.ids
        automation := fun t' ht' => ?_
        relied := fun t' ht' key hkey => ?_ }
      · rcases mem_set_cases ht' with rfl | ht'
        · exact hstep.task
        · exact h.automation t' ht'
      · rw [isActive_of_switches hstep.switches]
        exact h.relied t' ht' key hkey
  | enter call =>
    refine { h with entries := fun t ht => ?_, relied := fun t ht key hkey => ?_ }
    · rcases List.mem_append.mp ht with ht | ht
      · exact h.entries t ht
      · rw [List.mem_singleton.mp ht]
        exact entryOk_start call
    · rcases List.mem_append.mp ht with ht | ht
      · exact h.relied t ht key hkey
      · rw [List.mem_singleton.mp ht, start_relies] at hkey
        cases hkey
  | entry w facts =>
    cases hw : s.entries[w]? with
    | none => simpa [stopStep, hw] using h
    | some t =>
      simp only [stopStep, hw]
      have hmem := List.mem_of_getElem? hw
      refine { h with
        entries := fun t' ht' => ?_
        relied := fun t' ht' key hkey => ?_
        consistent := ?_ }
      · rcases mem_set_cases ht' with rfl | ht'
        · exact step_ok (h.entries t hmem)
        · exact h.entries t' ht'
      · rcases mem_set_cases ht' with rfl | ht'
        · rcases step_relies hkey with hbefore | hopen
          · exact h.relied t hmem key hbefore
          · exact hopen
        · exact h.relied t' ht' key hkey
      · rcases @step_db env globalForced facts s.safety.shared s.db t with hsame | ⟨auth, -, -, hfill⟩
        · rw [hsame]
          exact h.consistent
        · rw [hfill]
          exact runFillTransaction_consistent h.consistent
  | abandon w =>
    cases hw : s.entries[w]? with
    | none => simpa [stopStep, hw] using h
    | some t =>
      simp only [stopStep, hw]
      refine { h with entries := fun t' ht' => ?_, relied := fun t' ht' key hkey => ?_ }
      · rcases mem_set_cases ht' with rfl | ht'
        · exact entryOk_ended (h.entries t (List.mem_of_getElem? hw))
        · exact h.entries t' ht'
      · rcases mem_set_cases ht' with rfl | ht'
        · simp [EntryTask.relies, EntryTask.finished] at hkey
        · exact h.relied t' ht' key hkey
  | exit positionId attempt =>
    refine { h with exits := fun t ht auth hauth => ?_ }
    rcases List.mem_append.mp ht with ht | ht
    · exact h.exits t ht auth hauth
    · rw [List.mem_singleton.mp ht] at hauth
      cases hauth
  | exiting w =>
    cases hw : s.exits[w]? with
    | none => simpa [stopStep, hw] using h
    | some t =>
      simp only [stopStep, hw]
      refine { h with exits := fun t' ht' auth hauth => ?_, consistent := ?_ }
      · rcases mem_set_cases ht' with rfl | ht'
        · exact exitTask_kind hauth
        · exact h.exits t' ht' auth hauth
      · rcases @exitTask_db env t s.db with hsame | ⟨auth, -, hfill⟩
        · rw [hsame]
          exact h.consistent
        · rw [hfill]
          exact runFillTransaction_consistent h.consistent

/-! ## Exits -/

theorem exiting_last {l : List ExitTask} {t : ExitTask} (h : s.exits = l ++ [t]) :
    (stopStep env globalForced s (.exiting l.length)).db = (t.step env s.db).1 ∧
      (stopStep env globalForced s (.exiting l.length)).exits = l ++ [(t.step env s.db).2] := by
  have hget : s.exits[l.length]? = some t := by simp [h]
  simp only [stopStep, hget, true_and]
  rw [h, List.set_append_right _ _ (Nat.le_refl _), Nat.sub_self, List.set_cons_zero]

/-- **An exit takes its own steps**: no statement of it waits for a switch or reads one. -/
theorem exitAlone_db (env : PaperEnv) (globalForced : Bool) (s : StopState) (positionId : String)
    (attempt : ExitAttempt) :
    (exitAlone env globalForced s positionId attempt).db =
      (run (exitStep env positionId fun _ => attempt) (.start s.db) [.load 0, .precheck 0, .submit 0]).db := by
  have hspawn : (stopStep env globalForced s (.exit positionId attempt)).exits =
      s.exits ++ [⟨positionId, attempt, .idle⟩] := rfl
  obtain ⟨hdb₁, hexits₁⟩ := @exiting_last env globalForced _ _ _ hspawn
  obtain ⟨hdb₂, hexits₂⟩ := @exiting_last env globalForced _ _ _ hexits₁
  obtain ⟨hdb₃, -⟩ := @exiting_last env globalForced _ _ _ hexits₂
  have hspawned : (stopStep env globalForced s (.exit positionId attempt)).db = s.db := rfl
  simp only [exitAlone, run_cons, run_nil]
  rw [hdb₃, hdb₂, hdb₁, hspawned]
  cases hload : loadPhase s.db positionId with
  | loaded row =>
    cases hcheck : precheckPhase env attempt s.db row with
    | authorized auth =>
      simp [ExitTask.step, hload, hcheck, exitStep, ExitState.start, ExitState.setPhase]
    | finished => simp [ExitTask.step, hload, hcheck, exitStep, ExitState.start, ExitState.setPhase]
    | idle =>
      unfold precheckPhase at hcheck
      split at hcheck <;> cases hcheck
    | loaded row' =>
      unfold precheckPhase at hcheck
      split at hcheck <;> cases hcheck
  | finished => simp [ExitTask.step, hload, exitStep, ExitState.start, ExitState.setPhase]
  | idle =>
    unfold loadPhase at hload
    split at hload
    · split at hload <;> cases hload
    · cases hload
  | authorized auth =>
    unfold loadPhase at hload
    split at hload
    · split at hload <;> cases hload
    · cases hload

/-! ## One step -/

theorem stopStep_isActive (h : StopInv globalForced s) (a : StopAction) (key : SwitchKey) :
    (CommitsWrite s a key true →
        (stopStep env globalForced s a).safety.shared.isActive globalForced key = true) ∧
      (s.safety.shared.isActive globalForced key = true →
        (stopStep env globalForced s a).safety.shared.isActive globalForced key = false →
        CommitsWrite s a key false) := by
  -- every other action leaves the switches alone
  have others : (∀ b, a ≠ .safety b) →
      (stopStep env globalForced s a).safety.shared.switches = s.safety.shared.switches := by
    intro hne
    cases a with
    | safety b => exact absurd rfl (hne b)
    | automation w facts userFirst =>
      cases hw : s.automation[w]? with
      | none => simp only [stopStep, hw]
      | some t =>
        simp only [stopStep, hw]
        exact (automationStep_ok (d := s.safety.shared) globalForced facts userFirst s.safety.tasks
          (h.automation t (List.mem_of_getElem? hw))).switches
    | setAutomationEnabled userId enabled => rfl
    | enter call => rfl
    | exit positionId attempt => rfl
    | entry w facts => cases hw : s.entries[w]? <;> simp only [stopStep, hw]
    | abandon w => cases hw : s.entries[w]? <;> simp only [stopStep, hw]
    | exiting w => cases hw : s.exits[w]? <;> simp only [stopStep, hw]
  by_cases hsafety : ∃ b, a = .safety b
  · obtain ⟨b, rfl⟩ := hsafety
    obtain ⟨harms, -, hclears⟩ := safetyStep_isActive h.safety globalForced b key
    constructor
    · rintro ⟨b', heq, hcommits⟩
      cases heq
      exact harms hcommits
    · intro hbefore hafter
      rcases hclears hbefore with hactive | hcommits
      · have hafter : (safetyStep s.safety b).shared.isActive globalForced key = false := hafter
        rw [hactive] at hafter
        cases hafter
      · exact ⟨b, rfl, hcommits⟩
  · have hswitches := others fun b hb => hsafety ⟨b, hb⟩
    refine ⟨fun ⟨b, hb, _⟩ => absurd ⟨b, hb⟩ hsafety, fun hbefore hafter => ?_⟩
    rw [isActive_of_switches hswitches, hbefore] at hafter
    cases hafter

theorem stopStep_users (h : StopInv globalForced s) (a : StopAction) :
    NotTurnedOn s.safety.shared (stopStep env globalForced s a).safety.shared := by
  cases a with
  | safety b => exact safetyStep_users s.safety b
  | automation w facts userFirst =>
    cases hw : s.automation[w]? with
    | none => exact .of_users (by simp only [stopStep, hw])
    | some t =>
      simp only [stopStep, hw]
      exact (automationStep_ok globalForced facts userFirst s.safety.tasks
        (h.automation t (List.mem_of_getElem? hw))).users
  | setAutomationEnabled userId enabled => exact .of_users rfl
  | enter call => exact .of_users rfl
  | exit positionId attempt => exact .of_users rfl
  | entry w facts => exact .of_users (by cases hw : s.entries[w]? <;> simp only [stopStep, hw])
  | abandon w => exact .of_users (by cases hw : s.entries[w]? <;> simp only [stopStep, hw])
  | exiting w => exact .of_users (by cases hw : s.exits[w]? <;> simp only [stopStep, hw])

/-- **A position is opened while every switch that covers it is open.** -/
theorem stopStep_positions (h : StopInv globalForced s) (a : StopAction) {p : PositionRow}
    (hp : p ∈ (stopStep env globalForced s a).db.positions) (hnew : ∀ q ∈ s.db.positions, q.id ≠ p.id)
    {key : SwitchKey} (hkey : key ∈ coverage (stopStep env globalForced s a).db p) :
    s.safety.shared.isActive globalForced key = false := by
  have old : (stopStep env globalForced s a).db = s.db → s.safety.shared.isActive globalForced key = false := by
    intro hsame
    rw [hsame] at hp
    exact absurd rfl (hnew p hp)
  cases a with
  | entry w facts =>
    cases hw : s.entries[w]? with
    | none => exact old (by simp only [stopStep, hw])
    | some t =>
      simp only [stopStep, hw] at hp hkey
      have hmem := List.mem_of_getElem? hw
      have hok := h.entries t hmem
      rcases @step_db env globalForced facts s.safety.shared s.db t with hsame | ⟨auth, hrunning, hphase, hfill⟩
      · rw [hsame] at hp
        exact absurd rfl (hnew p hp)
      · rw [hfill] at hp hkey
        have hswitch := submit_coverage h.consistent (hok.entered auth hphase) hp hnew hkey
        obtain ⟨hread, hoff⟩ := hok.decided (by rw [hphase]; rfl) key.scope
        refine h.relied t hmem key ?_
        simp [EntryTask.relies, hrunning, hread, hoff, hswitch]
  | exiting w =>
    cases hw : s.exits[w]? with
    | none => exact old (by simp only [stopStep, hw])
    | some t =>
      simp only [stopStep, hw] at hp
      rcases @exitTask_db env t s.db with hsame | ⟨auth, hphase, hfill⟩
      · rw [hsame] at hp
        exact absurd rfl (hnew p hp)
      · rw [hfill] at hp
        obtain ⟨q, hq, hid⟩ := exit_no_new h.consistent (h.exits t (List.mem_of_getElem? hw) auth hphase) hp
        exact absurd hid (hnew q hq)
  | automation w facts userFirst => exact old (by cases hw : s.automation[w]? <;> simp only [stopStep, hw])
  | abandon w => exact old (by cases hw : s.entries[w]? <;> simp only [stopStep, hw])
  | safety b => exact old rfl
  | setAutomationEnabled userId enabled => exact old rfl
  | enter call => exact old rfl
  | exit positionId attempt => exact old rfl

/-! ## Over runs -/

/-- **Stop means stop**, in every run in which no activation of a switch is committed under an entry that
    relies on the switch: an activation arms its switch until a clear of it is committed, no call turns
    automation on, no transaction opens a position that an active switch covers, and an exit started in
    any state ends as it does without switches. -/
theorem stop_means_stop (env : PaperEnv) (globalForced : Bool) (users : List UserRow)
    (profiles : List ProfileRow) (strategies : List StrategyRow) {db : Db} (hcons : Consistent db)
    (acts : List StopAction)
    (hmeets : Meets (stopStep env globalForced) NoneOvertaken (.initial users profiles strategies db) acts)
    {s : StopState} (hs : Reached (stopStep env globalForced) (.initial users profiles strategies db) acts s)
    (a : StopAction) : StopHeld env globalForced s a (stopStep env globalForced s a) := by
  have hstep : ∀ s a, StopInv globalForced s → NoneOvertaken s a →
      StopInv globalForced (stopStep env globalForced s a) := fun _ _ h ha => stopStep_inv h ha
  have h : StopInv globalForced s :=
    inv_of_reached _ hstep (stopInv_initial users profiles strategies hcons) hmeets hs
  exact {
    armed := fun key => (stopStep_isActive h a key).1
    until_clear := fun key => (stopStep_isActive h a key).2
    automation_off := stopStep_users h a
    no_entry := fun p hp hnew key hkey => stopStep_positions h a hp hnew hkey
    exits_possible := exitAlone_db env globalForced _ }

/-! ## The panic button against a simulation -/

def freeAccount : SubscriptionFacts := ⟨.free, .active, none, false, none⟩

def sampleUsers : List UserRow := [⟨"user", false⟩]

/-- Statements of the first entry. -/
def entrySteps (n : ℕ) : List StopAction := List.replicate n (.entry 0 freeAccount)

/-- An emergency stop, from its call to its commit. -/
def emergencyStopSteps : List StopAction :=
  .safety (.call (.emergencyStop "user" "panic")) :: List.replicate 9 (.safety (.work 0 120000))

instance (s : StopState) (a : StopAction) : Decidable (NoneOvertaken s a) :=
  match a with
  | .safety (.work w _) => inferInstanceAs (Decidable (∀ t ∈ s.safety.tasks[w]?, ∀ tx ∈ t.tx,
      tx.next = .committing → tx.write.active = true → ∀ e ∈ s.entries, e.relies tx.key = false))
  | .safety (.call _) | .safety (.fail _) | .setAutomationEnabled .. | .automation .. | .enter _ | .entry ..
  | .abandon _ | .exit .. | .exiting _ => isTrue trivial

/-- A simulation that fills before the stop. -/
theorem entry_before_stop :
    let acts := .enter (sampleCall .confirmed .off 0) :: entrySteps 8 ++ emergencyStopSteps
    let s := run (stopStep sampleEnv false) (.initial sampleUsers [] [] Db.empty) acts
    StopHeld sampleEnv false s (.abandon 0) (stopStep sampleEnv false s (.abandon 0)) ∧
      s.db.positions.length = 1 ∧ s.safety.shared.isActive false ⟨.user, some "user"⟩ = true := by
  refine ⟨stop_means_stop sampleEnv false sampleUsers [] [] consistent_empty _ ?_ (reached_last _ _ _) _, ?_⟩
  · decide +kernel
  · decide +kernel

/-- The simulation has read its switches, the stop is committed, and the gates pass. -/
def overtakenRun : List StopAction :=
  .enter (sampleCall .confirmed .off 0) :: entrySteps 6 ++ emergencyStopSteps ++ entrySteps 1

/-- The simulation fills under the stop. -/
theorem overtaken_entry_fills :
    ¬ ∀ (env : PaperEnv) (globalForced : Bool) (users : List UserRow) (profiles : List ProfileRow)
      (strategies : List StrategyRow) (db : Db) (_ : Consistent db) (acts : List StopAction) (s : StopState)
      (_ : Reached (stopStep env globalForced) (.initial users profiles strategies db) acts s) (a : StopAction),
      StopHeld env globalForced s a (stopStep env globalForced s a) := by
  intro h
  have hfills :
      let s := run (stopStep sampleEnv false) (.initial sampleUsers [] [] Db.empty) overtakenRun
      let s' := stopStep sampleEnv false s (.entry 0 freeAccount)
      ∃ p ∈ s'.db.positions, (∀ q ∈ s.db.positions, q.id ≠ p.id) ∧
        ∃ key ∈ coverage s'.db p, s.safety.shared.isActive false key = true := by
    decide +kernel
  obtain ⟨p, hp, hnew, key, hkey, hactive⟩ := hfills
  have hheld := h sampleEnv false sampleUsers [] [] Db.empty consistent_empty overtakenRun _
    (reached_last _ _ overtakenRun) (.entry 0 freeAccount)
  rw [hheld.no_entry p hp hnew key hkey] at hactive
  cases hactive

end VeltrixEye.Safety
