import VeltrixEye.Execution.StopRuns

/-!
# What arms and clears a switch, and what turns automation on

* `safetyStep_users`, `automationStep_ok` — no statement turns automation on: no plan is entitled to it.
-/

namespace VeltrixEye.Safety

open Runs

variable {d d' : SafetyTables} {tx : SwitchTx} {key : SwitchKey} {globalForced : Bool}

/-! ## Switches -/

/-- The committed row of an active switch. -/
def SafetyTables.Armed (d : SafetyTables) (key : SwitchKey) : Prop := ∃ r, d.row? key = some r ∧ r.active = true

theorem isActive_iff (hkeys : (d.switches.map (·.key)).Nodup) :
    d.isActive globalForced key = true ↔ (globalForced = true ∧ key = ⟨.global, none⟩) ∨ d.Armed key := by
  have hrows : (d.switches.any fun r => r.key = key && r.active) = true ↔ d.Armed key := by
    rw [List.any_eq_true]
    constructor
    · rintro ⟨r, hr, hactive⟩
      simp only [Bool.and_eq_true, decide_eq_true_eq] at hactive
      exact ⟨r, row?_of_mem hkeys hr hactive.1, hactive.2⟩
    · rintro ⟨r, hr, hactive⟩
      obtain ⟨hmem, hkey⟩ := row?_mem hr
      exact ⟨r, hmem, by simp [hkey, hactive]⟩
  simp only [SafetyTables.isActive, Bool.or_eq_true, Bool.and_eq_true, decide_eq_true_eq, hrows]

theorem isActive_of_switches (h : d'.switches = d.switches) (key : SwitchKey) :
    d'.isActive globalForced key = d.isActive globalForced key := by
  simp only [SafetyTables.isActive, h]

theorem armed_of_row (h : d'.row? key = d.row? key) : d'.Armed key ↔ d.Armed key := by
  simp only [SafetyTables.Armed, h]

/-- **A commit arms or clears its own switch.** -/
theorem armed_commitTx (key : SwitchKey) (h : TxOk d tx) (hnext : tx.next = .committing) :
    (tx.write.active = true → (commitTx d tx).Armed tx.key) ∧
      ((commitTx d tx).Armed key → d.Armed key ∨ tx.key = key ∧ tx.write.active = true) ∧
      (d.Armed key → (commitTx d tx).Armed key ∨ tx.key = key ∧ tx.write.active = false) := by
  have hrow : ∀ r ∈ tx.row, r.key = tx.key := fun r hr => (h.row r hr).1
  have hupdated : tx.next.hasUpdated := by rw [hnext]; decide
  simp only [SafetyTables.Armed, row?_commitTx d tx hrow]
  refine ⟨fun hactive => ?_, ?_, ?_⟩
  · cases hwritten : tx.row with
    | some r => exact ⟨r, by simp, (h.row r hwritten).2.1.trans hactive⟩
    | none =>
      have hchanged : tx.changed = false := by
        by_contra hchanged
        have := h.updated hupdated (by simpa using hchanged)
        rw [hwritten] at this
        cases this
      cases hlocked : tx.locked with
      | false =>
        have hread := h.unlocked hlocked (by rw [hnext]; decide)
        rw [hchanged, hactive] at hread
        cases hread
      | true =>
        obtain ⟨r, hr, heq⟩ := h.locked hlocked
        rw [hchanged, hactive] at heq
        exact ⟨r, by simpa using hr, by simpa using heq⟩
  · rintro ⟨r, hr, hactive⟩
    split at hr
    · rename_i hown
      exact .inr ⟨hown.2, (h.row r hr).2.1.symm.trans hactive⟩
    · exact .inl ⟨r, hr, hactive⟩
  · rintro ⟨r, hr, hactive⟩
    split
    · rename_i hown
      obtain ⟨written, hwritten⟩ := Option.isSome_iff_exists.mp hown.1
      cases hside : tx.write.active with
      | true => exact .inl ⟨written, hwritten, (h.row written hwritten).2.1.trans hside⟩
      | false => exact .inr ⟨hown.2, rfl⟩
    · exact .inl ⟨r, hr, hactive⟩

variable {p : SafetyPool} {a : SafetyAction}

theorem commits_shared {active : Bool} (h : Commits p a key active) :
    ∃ (w : ℕ) (t : SwitchTask) (tx : SwitchTx), p.tasks[w]? = some t ∧ t.tx = some tx ∧ tx.next = .committing ∧ tx.key = key ∧
      tx.write.active = active ∧ (safetyStep p a).shared = commitTx p.shared tx := by
  obtain ⟨w, now, t, tx, rfl, hw, htx, hnext, hkey, hactive⟩ := h
  refine ⟨w, t, tx, hw, htx, hnext, hkey, hactive, ?_⟩
  have hstage : t.stage = .running tx := by
    cases hs : t.stage <;> simp_all [SwitchTask.tx]
  simp only [safetyStep, Pool.advance_of_get hw, switchStep, hstage, txStep, hnext]

/-- **Only a commit moves a switch.** -/
theorem safetyStep_isActive (h : SystemOk p) (globalForced : Bool) (a : SafetyAction) (key : SwitchKey) :
    (Commits p a key true → (safetyStep p a).shared.isActive globalForced key = true) ∧
      ((safetyStep p a).shared.isActive globalForced key = true →
        p.shared.isActive globalForced key = true ∨ Commits p a key true) ∧
      (p.shared.isActive globalForced key = true →
        (safetyStep p a).shared.isActive globalForced key = true ∨ Commits p a key false) := by
  have hkeys := h.shared.keys
  have hkeys' := (safetyStep_ok h a).shared.keys
  rw [isActive_iff hkeys, isActive_iff hkeys']
  refine ⟨fun hcommits => ?_, ?_⟩
  · obtain ⟨w, t, tx, hw, htx, hnext, rfl, hactive, hshared⟩ := commits_shared hcommits
    have hok := h.task t (List.mem_of_getElem? hw) tx htx
    rw [hshared]
    exact .inr ((armed_commitTx tx.key hok hnext).1 hactive)
  · rcases safetyStep_shared h a with hsame | ⟨w, now, t, tx, rfl, hw, htx, hnext, hshared⟩
    · rw [armed_of_row (hsame key).row]
      exact ⟨.inl, .inl⟩
    · have hok := h.task t (List.mem_of_getElem? hw) tx htx
      obtain ⟨-, hafter, hbefore⟩ := armed_commitTx key hok hnext
      have commits : ∀ active, tx.key = key ∧ tx.write.active = active →
          Commits p (.work w now) key active := fun active hwrite =>
        ⟨w, now, t, tx, rfl, hw, htx, hnext, hwrite.1, hwrite.2⟩
      rw [hshared]
      constructor
      · rintro (hforced | harmed)
        · exact .inl (.inl hforced)
        · rcases hafter harmed with harmed | hwrite
          · exact .inl (.inr harmed)
          · exact .inr (commits true hwrite)
      · rintro (hforced | harmed)
        · exact .inl (.inl hforced)
        · rcases hbefore harmed with harmed | hwrite
          · exact .inl (.inr harmed)
          · exact .inr (commits false hwrite)

/-! ## Automation -/

/-- No user of `d'` has automation on who had it off in `d`. -/
def NotTurnedOn (d d' : SafetyTables) : Prop :=
  ∀ u' ∈ d'.users, u'.automationEnabled = true → ∃ u ∈ d.users, u.id = u'.id ∧ u.automationEnabled = true

theorem NotTurnedOn.of_users (h : d'.users = d.users) : NotTurnedOn d d' := by
  intro u hu hon
  rw [h] at hu
  exact ⟨u, hu, rfl, hon⟩

theorem NotTurnedOn.of_map {f : UserRow → UserRow} (h : d'.users = d.users.map f)
    (hf : ∀ u, (f u).id = u.id ∧ ((f u).automationEnabled = true → u.automationEnabled = true)) :
    NotTurnedOn d d' := by
  intro u' hu' hon
  rw [h] at hu'
  obtain ⟨u, hu, rfl⟩ := List.mem_map.mp hu'
  exact ⟨u, hu, (hf u).1.symm, (hf u).2 hon⟩

theorem notTurnedOn_commitTx (d : SafetyTables) (tx : SwitchTx) : NotTurnedOn d (commitTx d tx) := by
  cases hoff : tx.automationOff with
  | false => exact .of_users (by simp [commitTx, hoff])
  | true =>
    refine .of_map (f := fun u => if some u.id = tx.key.targetId then { u with automationEnabled := false } else u)
      (by simp [commitTx, hoff]) fun u => ?_
    split <;> simp

theorem txStep_users (d : SafetyTables) (others : List SwitchTask) (call : SwitchCall) (tx : SwitchTx) :
    NotTurnedOn d (txStep d others call tx).1 := by
  unfold txStep
  cases hnext : tx.next with
  | committing => exact notTurnedOn_commitTx d tx
  | reading =>
    dsimp only
    split
    · exact .of_users rfl
    · split <;> exact .of_users rfl
  | inserting =>
    dsimp only
    split
    · exact .of_users rfl
    · split <;> exact .of_users rfl
  | updating =>
    dsimp only
    split
    · split
      · exact .of_users rfl
      · split <;> exact .of_users rfl
    · exact .of_users rfl
  | recording =>
    dsimp only
    split
    · split <;> exact .of_users rfl
    · exact .of_users rfl
  | disarming =>
    dsimp only
    split <;> exact .of_users rfl
  | disabling => exact .of_users rfl

theorem safetyStep_users (p : SafetyPool) (a : SafetyAction) : NotTurnedOn p.shared (safetyStep p a).shared := by
  cases a with
  | call call => exact .of_users rfl
  | fail w =>
    cases hw : p.tasks[w]? with
    | none => exact .of_users (by simp only [safetyStep, Pool.advance_of_none hw])
    | some t => exact .of_users (by simp only [safetyStep, Pool.advance_of_get hw])
  | work w now =>
    cases hw : p.tasks[w]? with
    | none => exact .of_users (by simp only [safetyStep, Pool.advance_of_none hw])
    | some t =>
      simp only [safetyStep, Pool.advance_of_get hw, switchStep]
      cases t.stage with
      | resolving =>
        dsimp only
        split <;> exact .of_users rfl
      | locking write =>
        dsimp only
        split <;> exact .of_users rfl
      | running tx => exact txStep_users _ _ _ tx
      | returned changed => exact .of_users rfl
      | threw => exact .of_users rfl

/-- **No plan is entitled to automation.** -/
theorem canAccessAutomation_false (f : SubscriptionFacts) : f.entitlements.canAccessAutomation = false := by
  have hplan : ∀ plan status, (Billing.getEntitlements plan status).canAccessAutomation = false := by
    intro plan status
    unfold Billing.getEntitlements
    split
    · cases plan <;> rfl
    · rfl
  unfold SubscriptionFacts.entitlements Billing.resolveEntitlements
  split <;> exact hplan _ _

/-- A call that is past its entitlement check does not turn automation on. -/
def AutomationOk (t : AutomationTask) : Prop :=
  match t.stage with
  | .reading entitled _ _ => entitled = false
  | .updating => t.enabled = false
  | _ => True

/-- What `setAutomationEnabled` leaves alone, and that it turns nothing on. -/
structure AutomationStep (d d' : SafetyTables) (t' : AutomationTask) : Prop where
  switches : d'.switches = d.switches
  events : d'.events = d.events
  ids : d'.nextEventId = d.nextEventId
  users : NotTurnedOn d d'
  task : AutomationOk t'

theorem automationStep_ok (globalForced : Bool) (facts : SubscriptionFacts) (userFirst : Bool)
    (switches : List SwitchTask) {t : AutomationTask} (h : AutomationOk t) :
    AutomationStep d (automationStep globalForced facts userFirst d switches t).1
      (automationStep globalForced facts userFirst d switches t).2 := by
  have waits : ∀ t', AutomationOk t' → AutomationStep d d t' := fun t' ht' => ⟨rfl, rfl, rfl, .of_users rfl, ht'⟩
  unfold automationStep
  cases hstage : t.stage with
  | starting =>
    dsimp only
    split
    · exact waits _ trivial
    · split
      · exact waits _ (canAccessAutomation_false facts)
      · rename_i henabled
        exact waits _ (by simpa [AutomationOk] using henabled)
  | reading entitled global user =>
    have hentitled : entitled = false := by simpa [AutomationOk, hstage] using h
    have reads : ∀ g u, AutomationOk { t with stage := .reading entitled g u } := fun g u => hentitled
    cases global with
    | none =>
      dsimp only
      split <;> exact waits _ (reads _ _)
    | some g =>
      cases user with
      | none =>
        dsimp only
        split <;> exact waits _ (reads _ _)
      | some u =>
        refine waits _ ?_
        simp only [AutomationOk, armedStage, hentitled]
        cases g <;> cases u <;> trivial
  | updating =>
    have hdisabled : t.enabled = false := by simpa [AutomationOk, hstage] using h
    dsimp only
    split
    · exact waits _ h
    · refine ⟨rfl, rfl, rfl, .of_map rfl fun u => ?_, trivial⟩
      split <;> simp [hdisabled]
  | returned => exact waits _ h
  | threw => exact waits _ h

end VeltrixEye.Safety
