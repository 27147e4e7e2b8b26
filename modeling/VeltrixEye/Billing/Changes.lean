import VeltrixEye.Billing.System

/-!
# What a step can write and hold
-/

namespace VeltrixEye.Billing

variable {runtime : BillingRuntime} {mode : BillingProviderMode} {input : StepInput}
  {order : ScanOrder} {db : BillingTables} {held : List Lock}

/-! ## The inversion of a statement -/

theorem checkoutStep_wrote (call : CheckoutCall) :
    (checkoutStep runtime mode input db held call).1 = db ∨
      ∃ row new epochId stored, call.stage = .verifying row new true epochId ∧
        verifyLock runtime (db.snapshots ++ new.toList) row = .ok stored ∧
        saleIdsFree db row new = true ∧
        checkoutStep runtime mode input db held call =
          (commitSale db row new, .admitting stored true) := by
  unfold checkoutStep
  cases call.stage with
  | verifying row new inserted epochId =>
    dsimp only
    split
    · exact .inl rfl
    rename_i stored hstored
    split
    · rename_i hinserted
      split
      · rename_i hfree
        subst hinserted
        exact .inr ⟨row, new, epochId, stored, rfl, hstored, hfree, rfl⟩
      · exact .inl rfl
    · exact .inl rfl
  | _ =>
    left
    all_goals dsimp only
    all_goals repeat' split
    all_goals rfl

/-- The row a confirmation at its insert would record. -/
def candidateEvidence (runtime : BillingRuntime) (mode : BillingProviderMode) (id userId : Uuid)
    (row : SubscriptionRow) (stored : StoredSnapshot) (observed : ProviderSubscriptionState)
    (verifiedAt : String) : EvidenceRow :=
  recordedRow runtime id userId row.id stored.id
    (observedFacts runtime mode userId stored observed verifiedAt)

/-- The unique indexes of `billing_verified_transactions` accept the row. -/
def EvidenceFresh (db : BillingTables) (e : EvidenceRow) : Prop :=
  ∀ e' ∈ db.transactions, e'.id ≠ e.id ∧ e'.idempotencyKey ≠ e.idempotencyKey ∧
    e'.providerReference ≠ e.providerReference

theorem confirmStep_wrote (call : ConfirmCall) :
    (confirmStep runtime mode input db held call).1 = db ∨
      ∃ row stored customer observed verifiedAt,
        call.stage = .recording row stored customer observed verifiedAt ∧
        EvidenceFresh db
          (candidateEvidence runtime mode input.id call.userId row stored observed verifiedAt) ∧
        confirmStep runtime mode input db held call =
          ({ db with transactions := db.transactions ++
              [candidateEvidence runtime mode input.id call.userId row stored observed verifiedAt] },
            .verified
              (candidateEvidence runtime mode input.id call.userId row stored observed verifiedAt)
              false) := by
  unfold confirmStep
  cases call.stage with
  | recording row stored customer observed verifiedAt =>
    dsimp only
    split
    · exact .inl rfl
    split
    · exact .inl rfl
    split
    · exact .inl rfl
    rename_i hkeys
    split
    · exact .inl rfl
    rename_i hids
    refine .inr ⟨row, stored, customer, observed, verifiedAt, rfl, ?_, rfl⟩
    intro e he
    simp only [List.any_eq_true, Bool.or_eq_true, decide_eq_true_eq, not_exists, not_and, not_or,
      Bool.not_eq_true'] at hkeys hids
    exact ⟨hids.2 e he, (hkeys e he).1, (hkeys e he).2⟩
  | _ =>
    left
    all_goals dsimp only
    all_goals repeat' split
    all_goals rfl

/-- The unique indexes of `billing_subscription_activations` accept the fact. -/
def ActivationFresh (db : BillingTables) (fact : ActivationRow) : Prop :=
  ∀ a ∈ db.activations, a.id ≠ fact.id ∧ a.subscriptionId ≠ fact.subscriptionId ∧
    a.evidenceId ≠ fact.evidenceId ∧ a.idempotencyKey ≠ fact.idempotencyKey

theorem activateStep_wrote (call : ActivateCall) :
    (activateStep runtime mode input db held call).1 = db ∨
      ∃ fact, call.stage = .committing fact ∧ ActivationFresh db fact ∧
        activateStep runtime mode input db held call =
          ({ db with activations := db.activations ++ [fact] }, .activated fact false) := by
  unfold activateStep
  cases call.stage with
  | committing fact =>
    dsimp only
    split
    · exact .inl rfl
    rename_i hfresh
    refine .inr ⟨fact, rfl, ?_, rfl⟩
    intro a ha
    simp only [List.any_eq_true, Bool.or_eq_true, decide_eq_true_eq, not_exists, not_and,
      not_or] at hfresh
    obtain ⟨⟨⟨hid, hsub⟩, hev⟩, hkey⟩ := hfresh a ha
    exact ⟨hid, hsub, hev, hkey⟩
  | _ =>
    left
    all_goals dsimp only
    all_goals repeat' split
    all_goals rfl

/-- The unique indexes of `billing_entitlement_grants` accept the grant. -/
def GrantFresh (db : BillingTables) (grant : GrantRow) : Prop :=
  ∀ g ∈ db.grants, g.id ≠ grant.id ∧ g.userId ≠ grant.userId ∧
    g.idempotencyKey ≠ grant.idempotencyKey

theorem grantStep_wrote (call : GrantCall) :
    (grantStep runtime input db held call).1 = db ∨
      ∃ grant, call.stage = .committing grant ∧ GrantFresh db grant ∧
        grantStep runtime input db held call =
          ({ db with grants := db.grants ++ [grant] }, .granted grant false) := by
  unfold grantStep
  cases call.stage with
  | committing grant =>
    dsimp only
    split
    · exact .inl rfl
    rename_i hfresh
    refine .inr ⟨grant, rfl, ?_, rfl⟩
    intro g hg
    simp only [List.any_eq_true, Bool.or_eq_true, decide_eq_true_eq, not_exists, not_and,
      not_or] at hfresh
    obtain ⟨⟨hid, huser⟩, hkey⟩ := hfresh g hg
    exact ⟨hid, huser, hkey⟩
  | _ =>
    left
    all_goals dsimp only
    all_goals repeat' split
    all_goals rfl

theorem syncStep_wrote {tick : ℕ} (call : SyncCall) :
    ((syncStep runtime tick input db held call).1 = db ∧
        newObservation call.stage (syncStep runtime tick input db held call).2 = []) ∨
      ∃ row plan claimed readAt, call.stage = .settling row plan claimed readAt ∧
        (∃ r ∈ db.subscriptions, movable r row plan = true) ∧
        blocked held (.subscriptionWrite row.id) = false ∧
        (plan.providerSubscriptionIdToBind = none ∨ identityTaken db row plan = false) ∧
        syncStep runtime tick input db held call =
          (applySync db row plan claimed input.now, .applied row.id plan.outcome readAt) := by
  unfold syncStep
  cases call.stage with
  | settling row plan claimed readAt =>
    dsimp only
    split
    · rename_i hmovable
      split
      · exact .inl ⟨rfl, rfl⟩
      rename_i hblocked
      split
      · exact .inl ⟨rfl, rfl⟩
      rename_i htaken
      refine .inr ⟨row, plan, claimed, readAt, rfl, ?_, by simpa using hblocked, ?_, rfl⟩
      · simpa using hmovable
      · by_cases hbind : plan.providerSubscriptionIdToBind = none
        · exact .inl hbind
        · exact .inr (by simpa using fun h => htaken ⟨hbind, h⟩)
    · exact .inl ⟨rfl, rfl⟩
  | _ =>
    left
    all_goals dsimp only
    all_goals repeat' split
    all_goals exact ⟨rfl, rfl⟩

theorem receiveStep_wrote (call : ReceiveCall) :
    (receiveStep runtime order input db held call).1 = db ∨
      (∃ bound, call.stage = .recording bound ∧
        (∀ e ∈ db.events, e.id ≠ input.id ∧ e.idempotencyKey ≠ call.delivery.idempotencyKey) ∧
        receiveStep runtime order input db held call =
          ({ db with events := db.events ++ [eventRow input.id call.delivery bound] },
            afterRecord call.delivery bound)) ∨
      ∃ subscriptionId userId code, call.stage = .binding subscriptionId userId code ∧
        rowsByCode db code = [] ∧ blocked held (.subscriptionWrite subscriptionId) = false ∧
        receiveStep runtime order input db held call =
          (bindCode db subscriptionId userId code, .received .bound) := by
  unfold receiveStep
  cases call.stage with
  | recording bound =>
    dsimp only
    split
    · exact .inl rfl
    split
    · exact .inl rfl
    rename_i hkeys
    split
    · exact .inl rfl
    rename_i hids
    refine .inr (.inl ⟨bound, rfl, ?_, rfl⟩)
    intro e he
    simp only [List.any_eq_true, decide_eq_true_eq, not_exists, not_and] at hkeys hids
    exact ⟨hids e he, hkeys e he⟩
  | binding subscriptionId userId code =>
    dsimp only
    split
    · split
      · exact .inl rfl
      rename_i hblocked
      split
      · rename_i hempty
        exact .inr (.inr ⟨subscriptionId, userId, code, rfl, by simpa using hempty,
          by simpa using hblocked, rfl⟩)
      · exact .inl rfl
    · exact .inl rfl
  | _ =>
    left
    all_goals dsimp only
    all_goals repeat' split
    all_goals rfl

/-- What one statement of a task writes. -/
inductive Wrote (runtime : BillingRuntime) (mode : BillingProviderMode) (input : StepInput)
    (db : BillingTables) (held : List Lock) : BillingTask → BillingTables → BillingTask → Prop
  | nothing (t t' : BillingTask) : Wrote runtime mode input db held t db t'
  | sale (call : CheckoutCall) (row : SubscriptionRow) (new : Option SnapshotRow)
      (epochId : Option Uuid) (stored : StoredSnapshot)
      (hstage : call.stage = .verifying row new true epochId)
      (hverified : verifyLock runtime (db.snapshots ++ new.toList) row = .ok stored)
      (hfree : saleIdsFree db row new = true) :
      Wrote runtime mode input db held (.checkout call) (commitSale db row new)
        (.checkout { call with stage := .admitting stored true })
  | evidence (call : ConfirmCall) (row : SubscriptionRow) (stored : StoredSnapshot)
      (customer : Option LocalCustomer) (observed : ProviderSubscriptionState) (verifiedAt : String)
      (e : EvidenceRow) (hstage : call.stage = .recording row stored customer observed verifiedAt)
      (he : e = candidateEvidence runtime mode input.id call.userId row stored observed verifiedAt)
      (hfresh : EvidenceFresh db e) :
      Wrote runtime mode input db held (.confirm call)
        { db with transactions := db.transactions ++ [e] }
        (.confirm { call with stage := .verified e false })
  | activation (call : ActivateCall) (fact : ActivationRow) (hstage : call.stage = .committing fact)
      (hfresh : ActivationFresh db fact) :
      Wrote runtime mode input db held (.activate call)
        { db with activations := db.activations ++ [fact] }
        (.activate { call with stage := .activated fact false })
  | grant (call : GrantCall) (grant : GrantRow) (hstage : call.stage = .committing grant)
      (hfresh : GrantFresh db grant) :
      Wrote runtime mode input db held (.grant call) { db with grants := db.grants ++ [grant] }
        (.grant { call with stage := .granted grant false })
  | sync (call : SyncCall) (row : SubscriptionRow) (plan : SyncPlan) (claimed : List EventRow)
      (readAt : ℕ) (hstage : call.stage = .settling row plan claimed readAt)
      (hmovable : ∃ r ∈ db.subscriptions, movable r row plan = true)
      (hblocked : blocked held (.subscriptionWrite row.id) = false)
      (hfree : plan.providerSubscriptionIdToBind = none ∨ identityTaken db row plan = false) :
      Wrote runtime mode input db held (.sync call) (applySync db row plan claimed input.now)
        (.sync { call with stage := .applied row.id plan.outcome readAt })
  | event (call : ReceiveCall) (bound : Option (Uuid × Uuid)) (hstage : call.stage = .recording bound)
      (hfresh : ∀ e ∈ db.events, e.id ≠ input.id ∧
        e.idempotencyKey ≠ call.delivery.idempotencyKey) :
      Wrote runtime mode input db held (.receive call)
        { db with events := db.events ++ [eventRow input.id call.delivery bound] }
        (.receive { call with stage := afterRecord call.delivery bound })
  | code (call : ReceiveCall) (subscriptionId userId : Uuid) (code : String)
      (hstage : call.stage = .binding subscriptionId userId code) (hfree : rowsByCode db code = [])
      (hblocked : blocked held (.subscriptionWrite subscriptionId) = false) :
      Wrote runtime mode input db held (.receive call) (bindCode db subscriptionId userId code)
        (.receive { call with stage := .received .bound })

/-- **The inversion of a statement.** -/
theorem taskStep_wrote (d : BillingData) (others : List BillingTask) (t : BillingTask) :
    Wrote runtime mode input d.db (heldBy others) t (taskStep runtime mode input order d others t).1.db
      (taskStep runtime mode input order d others t).2 := by
  cases t with
  | checkout call =>
    dsimp only [taskStep, BillingData.next]
    rcases checkoutStep_wrote call with h | ⟨row, new, epochId, stored, hstage, hv, hfree, h⟩
    · rw [h]
      exact .nothing _ _
    · rw [h]
      exact .sale call row new epochId stored hstage hv hfree
  | confirm call =>
    dsimp only [taskStep, BillingData.next]
    rcases confirmStep_wrote call with h | ⟨row, stored, customer, observed, at_, hstage, hfresh, h⟩
    · rw [h]
      exact .nothing _ _
    · rw [h]
      exact .evidence call row stored customer observed at_ _ hstage rfl hfresh
  | activate call =>
    dsimp only [taskStep, BillingData.next]
    rcases activateStep_wrote call with h | ⟨fact, hstage, hfresh, h⟩
    · rw [h]
      exact .nothing _ _
    · rw [h]
      exact .activation call fact hstage hfresh
  | grant call =>
    dsimp only [taskStep, BillingData.next]
    rcases grantStep_wrote call with h | ⟨grant, hstage, hfresh, h⟩
    · rw [h]
      exact .nothing _ _
    · rw [h]
      exact .grant call grant hstage hfresh
  | sync call =>
    dsimp only [taskStep, BillingData.next]
    rcases syncStep_wrote call with
      ⟨h, -⟩ | ⟨row, plan, claimed, readAt, hstage, hmovable, hblocked, hfree, h⟩
    · rw [h]
      exact .nothing _ _
    · rw [h]
      exact .sync call row plan claimed readAt hstage hmovable hblocked hfree
  | receive call =>
    dsimp only [taskStep, BillingData.next]
    rcases receiveStep_wrote call with
      h | ⟨bound, hstage, hfresh, h⟩ | ⟨subscriptionId, userId, code, hstage, hfree, hblocked, h⟩
    · rw [h]
      exact .nothing _ _
    · rw [h]
      exact .event call bound hstage hfresh
    · rw [h]
      exact .code call subscriptionId userId code hstage hfree hblocked

/-! ## Locks -/

theorem checkoutStep_locks (call : CheckoutCall) {l : Lock}
    (hl : l ∈ CheckoutCall.locks
      { call with stage := (checkoutStep runtime mode input db held call).2 }) :
    l ∈ call.locks ∨ blocked held l = false := by
  unfold checkoutStep at hl
  cases hstage : call.stage
  all_goals
    rw [hstage] at hl
    dsimp only at hl
  case persisting candidate epochId =>
    split at hl
    · simp [CheckoutCall.locks] at hl
    rename_i s hs
    split at hl
    · exact .inl (by simpa [hstage, CheckoutCall.locks] using hl)
    rename_i hblocked
    split at hl
    · simp [CheckoutCall.locks] at hl
    rename_i persisted new hcreate
    obtain ⟨s', hs', hnew⟩ := createSnapshot_ok hcreate
    rw [hs] at hs'
    cases hs'
    rcases List.mem_cons.mp hl with rfl | hl
    · exact .inl (by simp [CheckoutCall.locks, hstage])
    · rcases hnew with ⟨rfl, -⟩ | ⟨rfl, -⟩
      · simp at hl
      · simp only [Option.map_some, Option.toList_some, List.mem_singleton] at hl
        rw [hl]
        exact .inr (by simpa using hblocked)
  case inserting persisted new epochId =>
    split at hl
    · exact .inl (by simpa [hstage, CheckoutCall.locks] using hl)
    rename_i huser
    split at hl
    · exact .inl (by simp_all [CheckoutCall.locks])
    split at hl
    · exact .inl (by simpa [hstage, CheckoutCall.locks] using hl)
    rename_i hkey
    split at hl
    · simp [CheckoutCall.locks] at hl
    split at hl
    · simp [CheckoutCall.locks] at hl
    simp only [CheckoutCall.locks, Option.map_some, Option.toList_some, if_true, List.mem_append,
      List.mem_cons, List.not_mem_nil, or_false] at hl
    rcases hl with rfl | (rfl | rfl) | hl
    · exact .inl (by simp [CheckoutCall.locks, hstage])
    · exact .inr (by simpa using huser)
    · exact .inr (by simpa using hkey)
    · exact .inl (by simp [CheckoutCall.locks, hstage, hl])
  all_goals
    repeat' split at hl
  all_goals simp_all [CheckoutCall.locks]
  -- what is left is the row of a checkout that reads it again
  rcases hl with rfl | rfl <;> simp_all

theorem activateStep_locks (call : ActivateCall) {l : Lock}
    (hl : l ∈ ActivateCall.locks
      { call with stage := (activateStep runtime mode input db held call).2 }) :
    l ∈ call.locks ∨ blocked held l = false := by
  unfold activateStep at hl
  cases hstage : call.stage
  all_goals
    rw [hstage] at hl
    dsimp only at hl
    repeat' split at hl
  all_goals simp_all [ActivateCall.locks, activationFact]
  rcases hl with rfl | rfl <;> simp_all

theorem grantStep_locks (call : GrantCall) {l : Lock}
    (hl : l ∈ GrantCall.locks { call with stage := (grantStep runtime input db held call).2 }) :
    l ∈ call.locks ∨ blocked held l = false := by
  by_cases hdry : call.request.dryRun = true
  · simp [GrantCall.locks, hdry] at hl
  unfold grantStep at hl
  cases hstage : call.stage
  all_goals
    rw [hstage] at hl
    dsimp only at hl
    repeat' split at hl
  all_goals simp_all [GrantCall.locks, candidateGrant]

theorem syncStep_locks {tick : ℕ} (call : SyncCall) {l : Lock}
    (hl : l ∈ SyncCall.locks { call with stage := (syncStep runtime tick input db held call).2 }) :
    l ∈ call.locks ∨ blocked held l = false := by
  unfold syncStep at hl
  cases hstage : call.stage with
  | claiming row plan readAt =>
    rw [hstage] at hl
    obtain ⟨e, he, rfl⟩ := List.mem_map.mp hl
    have hmem := List.mem_mergeSort.mp (List.mem_of_mem_take he)
    simp only [List.mem_filter, Bool.and_eq_true, Bool.not_eq_true'] at hmem
    exact .inr hmem.2.2
  | _ =>
    rw [hstage] at hl
    dsimp only at hl
    repeat' split at hl
    all_goals simp_all [SyncCall.locks]

/-- **A statement takes only locks that no other task blocks.** -/
theorem taskStep_locks (d : BillingData) (others : List BillingTask) (t : BillingTask) {l : Lock}
    (hl : l ∈ (taskStep runtime mode input order d others t).2.locks) :
    l ∈ t.locks ∨ blocked (heldBy others) l = false := by
  cases t with
  | checkout call => exact checkoutStep_locks call hl
  | confirm call => cases hl
  | activate call => exact activateStep_locks call hl
  | grant call => exact grantStep_locks call hl
  | sync call => exact syncStep_locks call hl
  | receive call => cases hl

theorem failTask_checkout (call : CheckoutCall) :
    ∃ stage, failTask (.checkout call) = .checkout { call with stage := stage } ∧
      ((∃ reference, stage = .completed reference) ∨ ∃ reason, stage = .refused reason) := by
  refine ⟨_, rfl, ?_⟩
  split
  · exact .inl ⟨_, rfl⟩
  · exact .inr ⟨_, rfl⟩
  · exact .inr ⟨_, rfl⟩

theorem failTask_locks (t : BillingTask) : (failTask t).locks = [] := by
  cases t with
  | checkout call =>
    rcases hstage : call.stage <;>
      simp [failTask, BillingTask.locks, CheckoutCall.locks, hstage]
  | confirm call => rfl
  | activate call =>
    rcases hstage : call.stage <;>
      simp [failTask, BillingTask.locks, ActivateCall.locks, hstage]
  | grant call =>
    rcases hstage : call.stage <;> simp [failTask, BillingTask.locks, GrantCall.locks, hstage]
  | sync call =>
    rcases hstage : call.stage <;> simp [failTask, BillingTask.locks, SyncCall.locks, hstage]
  | receive call => rfl

theorem started_locks {t : BillingTask} (h : t.Started) : t.locks = [] := by
  cases t with
  | checkout call =>
    have hstage := congrArg CheckoutCall.stage h
    unfold BillingTask.locks CheckoutCall.locks
    dsimp only
    rw [hstage]
    rcases startCheckout_stage call.userId call.cataloguePlan call.interval with hs | hs <;> rw [hs]
  | confirm call => rfl
  | activate call =>
    have hstage := congrArg ActivateCall.stage h
    unfold BillingTask.locks ActivateCall.locks
    dsimp only
    rw [hstage]
    rcases startActivate_stage call.request with hs | hs <;> rw [hs]
  | grant call =>
    have hstage := congrArg GrantCall.stage h
    unfold BillingTask.locks GrantCall.locks
    dsimp only
    split
    · rfl
    rw [hstage]
    rcases startGrant_stage call.request with ⟨reason, hs⟩ | ⟨plan, hs⟩ <;> rw [hs]
  | sync call =>
    have hstage := congrArg SyncCall.stage h
    unfold BillingTask.locks SyncCall.locks
    dsimp only
    rw [hstage]
    rfl
  | receive call => rfl

/-- Two tasks never hold conflicting locks. -/
def Apart (t t' : BillingTask) : Prop := ∀ l ∈ t.locks, ∀ l' ∈ t'.locks, l.conflicts l' = false

theorem Apart.symm {t t' : BillingTask} (h : Apart t t') : Apart t' t := by
  intro l hl l' hl'
  rw [Lock.conflicts_comm]
  exact h l' hl' l hl

theorem apart_of_locks_nil {t t' : BillingTask} (h : t.locks = []) : Apart t t' := by
  intro l hl
  rw [h] at hl
  cases hl

/-! ## The step rule -/

/-- The statements from outside. -/
inductive Outside (held : List Lock) (db : BillingTables) : BillingTables → Prop
  | fxVersion (row : FxRateVersionRow) : Outside held db (recordFxVersion row db)
  | register (row : ProviderPlanRow) : Outside held db (registerPlan row db)
  | retire (id : Uuid) : Outside held db (retirePlan id held db)
  | customer (row : CustomerRow) : Outside held db (provisionCustomer row db)

/-- **The step rule.** An invariant of the data, the tasks and their pairs is kept when a new call
    fits, a statement of a call keeps its own part and disturbs no other call, a failed call fits and
    the statements from outside keep it. -/
theorem billingStep_safe {I : BillingData → Prop} {J : BillingData → BillingTask → Prop}
    {K : BillingTask → BillingTask → Prop} {s : BillingState} (h : Pool.Safe I J K s)
    (a : BillingAction)
    (hstart : ∀ t : BillingTask, t.Started → J s.shared t ∧ ∀ t' ∈ s.tasks, K t t' ∧ K t' t)
    (hadvance : ∀ w input order t r, a = .advance w input order → s.tasks[w]? = some t →
      taskStep runtime mode input order s.shared (s.others w) t = r →
      I r.1 ∧ J r.1 r.2 ∧ ∀ t' ∈ s.others w, J r.1 t' ∧ K r.2 t' ∧ K t' r.2)
    (hfail : ∀ w t, s.tasks[w]? = some t →
      J s.shared (failTask t) ∧ ∀ t' ∈ s.others w, K (failTask t) t' ∧ K t' (failTask t))
    (houtside : ∀ db', Outside (heldBy s.tasks) s.shared.db db' →
      I { s.shared with db := db' } ∧ ∀ t ∈ s.tasks, J { s.shared with db := db' } t) :
    Pool.Safe I J K (billingStep runtime mode s a) := by
  have update : ∀ f : List Lock → BillingTables → BillingTables,
      Outside (heldBy s.tasks) s.shared.db (f (heldBy s.tasks) s.shared.db) →
      Pool.Safe I J K (outside f s) := by
    intro f hf
    exact Pool.safe_update h (houtside _ hf).1 (houtside _ hf).2
  cases a with
  | start task =>
    show Pool.Safe I J K (if task.Started then s.spawn task else s)
    split
    · rename_i hstarted
      exact Pool.safe_spawn h (hstart task hstarted).1 (hstart task hstarted).2
    · exact h
  | advance w input order =>
    show Pool.Safe I J K (s.advance (taskStep runtime mode input order) w)
    exact Pool.safe_advance h w fun t r => hadvance w input order t r rfl
  | fail w =>
    show Pool.Safe I J K (s.advance (fun d _ t => (d, failTask t)) w)
    refine Pool.safe_advance h w ?_
    rintro t r ht rfl
    refine ⟨h.shared, (hfail w t ht).1, fun t' ht' => ?_⟩
    exact ⟨(h.other ht ht').1, (hfail w t ht).2 t' ht'⟩
  | recordFxVersion row => exact update (fun _ => Billing.recordFxVersion row) (.fxVersion row)
  | registerPlan row => exact update (fun _ => Billing.registerPlan row) (.register row)
  | retirePlan id => exact update _ (.retire id)
  | provisionCustomer row => exact update (fun _ => Billing.provisionCustomer row) (.customer row)

/-- The locks of any two tasks are compatible. -/
abbrev Exclusive (s : BillingState) : Prop := Pool.Safe (fun _ => True) (fun _ _ => True) Apart s

theorem billingStep_exclusive (s : BillingState) (a : BillingAction) (h : Exclusive s) :
    Exclusive (billingStep runtime mode s a) := by
  refine billingStep_safe h a ?_ ?_ ?_ ?_
  · intro t hstarted
    refine ⟨trivial, fun t' _ => ?_⟩
    exact ⟨apart_of_locks_nil (started_locks hstarted),
      (apart_of_locks_nil (started_locks hstarted)).symm⟩
  · rintro w input order t r - ht rfl
    refine ⟨trivial, trivial, fun t' ht' => ?_⟩
    have hapart : Apart (taskStep runtime mode input order s.shared (s.others w) t).2 t' := by
      intro l hl l' hl'
      rcases taskStep_locks _ _ _ hl with hold | hfree
      · exact (h.other ht ht').2.1 l hold l' hl'
      · rw [Lock.conflicts_comm]
        exact not_blocked hfree ht' hl'
    exact ⟨trivial, hapart, hapart.symm⟩
  · intro w t ht
    have hapart : ∀ t', Apart (failTask t) t' := fun t' => apart_of_locks_nil (failTask_locks t)
    exact ⟨trivial, fun t' _ => ⟨hapart t', (hapart t').symm⟩⟩
  · exact fun _ _ => ⟨trivial, fun _ _ => trivial⟩

/-! ## Rows are kept -/

/-- `r'` is a later state of the row `r`: its identity and commercial columns are the same, and a
    bound provider identifier stays. -/
structure Kept (r r' : SubscriptionRow) : Prop where
  id : r'.id = r.id
  userId : r'.userId = r.userId
  plan : r'.plan = r.plan
  cataloguePlan : r'.cataloguePlan = r.cataloguePlan
  billingInterval : r'.billingInterval = r.billingInterval
  provider : r'.provider = r.provider
  providerPlanId : r'.providerPlanId = r.providerPlanId
  billingCustomerId : r'.billingCustomerId = r.billingCustomerId
  locked : r'.lockedPricingSnapshotId = r.lockedPricingSnapshotId
  version : r.stateVersion ≤ r'.stateVersion
  providerSubscriptionId : ∀ x, r.providerSubscriptionId = some x → r'.providerSubscriptionId = some x
  providerSubscriptionCode :
    ∀ x, r.providerSubscriptionCode = some x → r'.providerSubscriptionCode = some x

theorem Kept.rfl {r : SubscriptionRow} : Kept r r := by
  constructor <;> first | exact Eq.refl _ | exact Nat.le_refl _ | exact fun _ h => h

theorem Kept.trans {r r' r'' : SubscriptionRow} (h : Kept r r') (h' : Kept r' r'') : Kept r r'' where
  id := h'.id.trans h.id
  userId := h'.userId.trans h.userId
  plan := h'.plan.trans h.plan
  cataloguePlan := h'.cataloguePlan.trans h.cataloguePlan
  billingInterval := h'.billingInterval.trans h.billingInterval
  provider := h'.provider.trans h.provider
  providerPlanId := h'.providerPlanId.trans h.providerPlanId
  billingCustomerId := h'.billingCustomerId.trans h.billingCustomerId
  locked := h'.locked.trans h.locked
  version := h.version.trans h'.version
  providerSubscriptionId x hx := h'.providerSubscriptionId x (h.providerSubscriptionId x hx)
  providerSubscriptionCode x hx := h'.providerSubscriptionCode x (h.providerSubscriptionCode x hx)

theorem kept_moveRow (r : SubscriptionRow) (plan : SyncPlan) (syncedAt : String)
    (lastKey : Option String) : Kept r (moveRow r plan syncedAt lastKey) := by
  constructor <;> try rfl
  · exact Nat.le_succ _
  · intro x hx
    simp [moveRow, hx]
  · exact fun _ h => h

/-- Rows are never deleted; they keep their identity, and a settled ledger row does not change. -/
structure Extends (db db' : BillingTables) : Prop where
  users : db'.users = db.users
  fxVersions : db.fxVersions ⊆ db'.fxVersions
  plans : ∀ p ∈ db.plans, p ∈ db'.plans ∨ { p with status := .retired } ∈ db'.plans
  snapshots : db.snapshots ⊆ db'.snapshots
  subscriptions : ∀ r ∈ db.subscriptions, ∃ r' ∈ db'.subscriptions, Kept r r'
  transactions : db.transactions ⊆ db'.transactions
  activations : db.activations ⊆ db'.activations
  grants : db.grants ⊆ db'.grants
  events : ∀ e ∈ db.events, ∃ e' ∈ db'.events, e'.id = e.id ∧
    (e.status ≠ .received → e'.status = e.status)

theorem Extends.rfl {db : BillingTables} : Extends db db where
  users := Eq.refl _
  fxVersions := List.Subset.refl _
  plans _ hp := .inl hp
  snapshots := List.Subset.refl _
  subscriptions r hr := ⟨r, hr, .rfl⟩
  transactions := List.Subset.refl _
  activations := List.Subset.refl _
  grants := List.Subset.refl _
  events e he := ⟨e, he, Eq.refl _, fun _ => Eq.refl _⟩

theorem Extends.trans {db db' db'' : BillingTables} (h : Extends db db') (h' : Extends db' db'') :
    Extends db db'' where
  users := h'.users.trans h.users
  fxVersions := List.Subset.trans h.fxVersions h'.fxVersions
  plans p hp := by
    rcases h.plans p hp with hp | hp
    · exact h'.plans p hp
    · exact .inr ((h'.plans _ hp).elim id id)
  snapshots := List.Subset.trans h.snapshots h'.snapshots
  subscriptions r hr := by
    obtain ⟨r', hr', hk⟩ := h.subscriptions r hr
    obtain ⟨r'', hr'', hk'⟩ := h'.subscriptions r' hr'
    exact ⟨r'', hr'', hk.trans hk'⟩
  transactions := List.Subset.trans h.transactions h'.transactions
  activations := List.Subset.trans h.activations h'.activations
  grants := List.Subset.trans h.grants h'.grants
  events e he := by
    obtain ⟨e', he', hid, hstatus⟩ := h.events e he
    obtain ⟨e'', he'', hid', hstatus'⟩ := h'.events e' he'
    refine ⟨e'', he'', hid'.trans hid, fun hne => ?_⟩
    have heq := hstatus hne
    rw [← heq]
    exact hstatus' (by rw [heq]; exact hne)

theorem kept_bindCode (r : SubscriptionRow) (subscriptionId userId : Uuid) (code : String) :
    Kept r (if bindable r subscriptionId userId code then
      { r with providerSubscriptionCode := some code, stateVersion := r.stateVersion + 1 }
      else r) := by
  split
  · rename_i hb
    have hnone : r.providerSubscriptionCode = none := by
      simp only [bindable, Bool.and_eq_true, decide_eq_true_eq] at hb
      exact hb.1.2
    constructor <;> try rfl
    · exact Nat.le_succ _
    · exact fun _ h => h
    · intro x hx
      rw [hnone] at hx
      cases hx
  · exact .rfl

theorem settleEvent_id (plan : SyncPlan) (claimed : List EventRow) (at_ : String) (e : EventRow) :
    (settleEvent plan claimed at_ e).id = e.id := by
  unfold settleEvent
  split <;> rfl

theorem Wrote.extends {t t' : BillingTask} {db' : BillingTables}
    (h : Wrote runtime mode input db held t db' t') : Extends db db' := by
  cases h with
  | nothing => exact .rfl
  | sale call row new epochId stored =>
    exact { @Extends.rfl db with
      snapshots := List.subset_append_left _ _
      subscriptions := fun r hr => ⟨r, List.mem_append_left _ hr, .rfl⟩ }
  | evidence =>
    exact { @Extends.rfl db with transactions := List.subset_append_left _ _ }
  | activation =>
    exact { @Extends.rfl db with activations := List.subset_append_left _ _ }
  | grant => exact { @Extends.rfl db with grants := List.subset_append_left _ _ }
  | sync call row plan claimed readAt =>
    refine { @Extends.rfl db with subscriptions := ?_, events := ?_ }
    · intro r hr
      refine ⟨_, List.mem_map.mpr ⟨r, hr, rfl⟩, ?_⟩
      split
      · exact kept_moveRow r plan _ _
      · exact .rfl
    · intro e he
      refine ⟨_, List.mem_map.mpr ⟨e, he, rfl⟩, settleEvent_id _ _ _ e, fun hne => ?_⟩
      simp [settleEvent, hne]
  | event =>
    exact { @Extends.rfl db with
      events := fun e he => ⟨e, List.mem_append_left _ he, rfl, fun _ => rfl⟩ }
  | code call subscriptionId userId code =>
    exact { @Extends.rfl db with
      subscriptions := fun r hr =>
        ⟨_, List.mem_map.mpr ⟨r, hr, rfl⟩, kept_bindCode r subscriptionId userId code⟩ }

theorem Outside.extends {db' : BillingTables} (h : Outside held db db') : Extends db db' := by
  cases h with
  | fxVersion row =>
    unfold recordFxVersion
    split
    · exact .rfl
    · exact { @Extends.rfl db with fxVersions := List.subset_append_left _ _ }
  | register row =>
    unfold registerPlan
    split
    · exact .rfl
    · exact { @Extends.rfl db with plans := fun p hp => .inl (List.mem_append_left _ hp) }
  | retire id =>
    unfold retirePlan
    split
    · exact .rfl
    · refine { @Extends.rfl db with plans := fun p hp => ?_ }
      by_cases hid : p.id = id
      · exact .inr (List.mem_map.mpr ⟨p, hp, by simp [hid]⟩)
      · exact .inl (List.mem_map.mpr ⟨p, hp, by simp [hid]⟩)
  | customer row =>
    unfold provisionCustomer
    split
    · exact .rfl
    split
    · split
      · exact .rfl
      · exact { @Extends.rfl db with }
    · exact { @Extends.rfl db with }

/-- **No step deletes a row or changes what it was sold as.** -/
theorem billingStep_extends (s : BillingState) (a : BillingAction) :
    Extends s.shared.db (billingStep runtime mode s a).shared.db := by
  cases a with
  | start task =>
    show Extends s.shared.db (if task.Started then s.spawn task else s).shared.db
    split <;> exact .rfl
  | advance w input order =>
    show Extends s.shared.db (s.advance (taskStep runtime mode input order) w).shared.db
    cases hw : s.tasks[w]? with
    | none =>
      rw [Pool.advance_of_none hw]
      exact .rfl
    | some t =>
      rw [Pool.advance_of_get hw]
      exact (taskStep_wrote s.shared (s.others w) t).extends
  | fail w =>
    show Extends s.shared.db (s.advance (fun d _ t => (d, failTask t)) w).shared.db
    cases hw : s.tasks[w]? with
    | none =>
      rw [Pool.advance_of_none hw]
      exact .rfl
    | some t =>
      rw [Pool.advance_of_get hw]
      exact .rfl
  | recordFxVersion row => exact (@Outside.fxVersion [] _ row).extends
  | registerPlan row => exact (@Outside.register [] _ row).extends
  | retirePlan id => exact (Outside.retire id).extends
  | provisionCustomer row => exact (@Outside.customer [] _ row).extends

theorem run_extends (s : BillingState) (as : List BillingAction) :
    Extends s.shared.db (Runs.run (billingStep runtime mode) s as).shared.db := by
  induction as generalizing s with
  | nil => exact .rfl
  | cons a as ih => exact (billingStep_extends s a).trans (ih _)

/-! ## What is new after a statement -/

theorem Wrote.subscription {t t' : BillingTask} {db' : BillingTables}
    (h : Wrote runtime mode input db held t db' t') {r' : SubscriptionRow}
    (hr' : r' ∈ db'.subscriptions) :
    (∃ r ∈ db.subscriptions, Kept r r') ∨
      ∃ call new epochId, t = .checkout call ∧ call.stage = .verifying r' new true epochId := by
  cases h with
  | sale call row new epochId stored hstage =>
    rcases List.mem_append.mp hr' with hr' | hr'
    · exact .inl ⟨r', hr', .rfl⟩
    · rw [List.mem_singleton.mp hr']
      exact .inr ⟨call, new, epochId, rfl, hstage⟩
  | sync call row plan claimed readAt =>
    obtain ⟨r, hr, rfl⟩ := List.mem_map.mp hr'
    refine .inl ⟨r, hr, ?_⟩
    split
    · exact kept_moveRow r plan _ _
    · exact .rfl
  | code call subscriptionId userId code =>
    obtain ⟨r, hr, rfl⟩ := List.mem_map.mp hr'
    exact .inl ⟨r, hr, kept_bindCode r subscriptionId userId code⟩
  | _ => exact .inl ⟨r', hr', .rfl⟩

theorem Wrote.snapshot {t t' : BillingTask} {db' : BillingTables}
    (h : Wrote runtime mode input db held t db' t') {n : SnapshotRow} (hn : n ∈ db'.snapshots) :
    n ∈ db.snapshots ∨
      ∃ call row epochId, t = .checkout call ∧ call.stage = .verifying row (some n) true epochId := by
  cases h with
  | sale call row new epochId stored hstage =>
    rcases List.mem_append.mp hn with hn | hn
    · exact .inl hn
    · rw [Option.mem_toList] at hn
      cases hn
      exact .inr ⟨call, row, epochId, rfl, hstage⟩
  | _ => exact .inl hn

theorem Wrote.plans {t t' : BillingTask} {db' : BillingTables}
    (h : Wrote runtime mode input db held t db' t') :
    db'.plans = db.plans ∧ db'.fxVersions = db.fxVersions ∧ db'.customers = db.customers := by
  cases h <;> exact ⟨rfl, rfl, rfl⟩

theorem Outside.tables {db' : BillingTables} (h : Outside held db db') :
    db'.snapshots = db.snapshots ∧ db'.subscriptions = db.subscriptions ∧
      db'.transactions = db.transactions ∧ db'.activations = db.activations ∧
      db'.grants = db.grants ∧ db'.events = db.events ∧ db'.users = db.users := by
  cases h with
  | fxVersion row =>
    unfold recordFxVersion
    split <;> exact ⟨rfl, rfl, rfl, rfl, rfl, rfl, rfl⟩
  | register row =>
    unfold registerPlan
    split <;> exact ⟨rfl, rfl, rfl, rfl, rfl, rfl, rfl⟩
  | retire id =>
    unfold retirePlan
    split <;> exact ⟨rfl, rfl, rfl, rfl, rfl, rfl, rfl⟩
  | customer row =>
    unfold provisionCustomer
    repeat' split
    all_goals exact ⟨rfl, rfl, rfl, rfl, rfl, rfl, rfl⟩

theorem Outside.plan {db' : BillingTables} (h : Outside held db db') {p : ProviderPlanRow}
    (hp : p ∈ db.plans) (hheld : .planShare p.id ∈ held) : p ∈ db'.plans := by
  cases h with
  | fxVersion row =>
    unfold recordFxVersion
    split <;> exact hp
  | register row =>
    unfold registerPlan
    split
    · exact hp
    · exact List.mem_append_left _ hp
  | retire id =>
    unfold retirePlan
    split
    · exact hp
    · rename_i hblocked
      have hfree := blocked_eq_false.mp (by simpa using hblocked) _ hheld
      have hne : p.id ≠ id := by simpa [Lock.conflicts] using hfree
      exact List.mem_map.mpr ⟨p, hp, by simp [hne]⟩
  | customer row =>
    unfold provisionCustomer
    repeat' split
    all_goals exact hp

end VeltrixEye.Billing
